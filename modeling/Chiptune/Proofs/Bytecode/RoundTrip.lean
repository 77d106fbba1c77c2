import Chiptune.Bytecode.View
import Chiptune.Proofs.Image
import Chiptune.Proofs.Outcome

/-!
# Reading commands back

A command that was assembled from fields is read back as these fields, whatever
comes behind it: the bits of its header announce exactly the bytes that follow,
and the nibbles of the shared byte do not disturb each other. A row of four such
commands is therefore read back command by command (`decodeRow_encodeRow`).
-/

namespace Chiptune.Bytecode

namespace Command

theorem headerFor_table : ∀ level : UInt8, level < 16 → ∀ lead instrument action : Bool,
    let header := (if lead then leadFlag else 0) ||| (if action then effectFlag else 0) |||
      (if instrument then instrumentFlag else 0) ||| (volumeFlag ||| level)
    hasLead header = lead ∧ hasEffect header = action ∧ hasInstrument header = instrument ∧
      hasVolume header = true ∧ header &&& volumeMask = level :=
  forall_byte (by decide +kernel)

theorem and_volumeMask_lt : ∀ v : UInt8, v &&& volumeMask < 16 :=
  forall_byte (by decide +kernel)

/-- A header announces the fields for which it was made, and holds the volume. -/
theorem headerFor_bits (lead instrument : Option UInt8) (action : Option Action)
    (volume : Option UInt8) :
    hasLead (headerFor lead instrument action volume) = lead.isSome ∧
      hasEffect (headerFor lead instrument action volume) = action.isSome ∧
      hasInstrument (headerFor lead instrument action volume) = instrument.isSome ∧
      hasVolume (headerFor lead instrument action volume) = volume.isSome ∧
      ∀ v ∈ volume, headerFor lead instrument action volume &&& volumeMask = v &&& volumeMask := by
  cases volume with
  | none =>
      have table : ∀ lead instrument action : Bool,
          let header := (if lead then leadFlag else 0) ||| (if action then effectFlag else 0) |||
            (if instrument then instrumentFlag else 0) ||| 0
          hasLead header = lead ∧ hasEffect header = action ∧
            hasInstrument header = instrument ∧ hasVolume header = false := by decide
      obtain ⟨hl, he, hi, hv⟩ := table lead.isSome instrument.isSome action.isSome
      exact ⟨hl, he, hi, hv, by simp⟩
  | some v =>
      obtain ⟨hl, he, hi, hv, hm⟩ :=
        headerFor_table _ (and_volumeMask_lt v) lead.isSome instrument.isSome action.isSome
      refine ⟨hl, he, hi, hv, ?_⟩
      intro _ same
      cases same
      exact hm

/-- The nibbles of a shared byte are the instrument and the number of the effect. -/
theorem shared_nibbles (opcode : Opcode) : ∀ i : UInt8, i < 16 →
    ((i <<< 4) ||| opcode.code) >>> 4 = i ∧
      ((i <<< 4) ||| opcode.code) &&& 0x0F = opcode.code := by
  cases opcode <;> exact forall_byte (by decide +kernel)

theorem instrument_nibble : ∀ i : UInt8, i < 16 → (i <<< 4) >>> 4 = i :=
  forall_byte (by decide +kernel)

theorem volume_nibble : ∀ v : UInt8, v < 16 → v &&& volumeMask = v :=
  forall_byte (by decide +kernel)

theorem code_and_mask (opcode : Opcode) : opcode.code &&& 0x0F = opcode.code := by
  cases opcode <;> rfl

/-- A command has its header, a byte for a lead, one for an instrument or an effect
or both of them, and one more for an effect. -/
theorem length_assemble (lead instrument : Option UInt8) (action : Option Action)
    (volume : Option UInt8) : (assemble lead instrument action volume).length =
      1 + lead.isSome.toNat + (instrument.isSome || action.isSome).toNat +
        action.isSome.toNat := by
  obtain ⟨hl, he, hi, -, -⟩ := headerFor_bits lead instrument action volume
  show commandLength (headerFor lead instrument action volume) = _
  rw [commandLength, hl, he, hi]

/-- The header of a command tells how many bytes it has. -/
theorem toBytes_assemble (lead instrument : Option UInt8) (action : Option Action)
    (volume : Option UInt8) : (assemble lead instrument action volume).toBytes =
      headerFor lead instrument action volume :: bodyFor lead instrument action := by
  rw [toBytes, length_assemble]
  simp only [raw, assemble, ofBytes]
  cases lead <;> cases instrument <;> cases action <;> rfl

end Command

namespace View

/-- What a command shows that was assembled from the given fields. -/
def ofFields (c : Channel) (lead instrument : Option UInt8) (action : Option Action)
    (volume : Option UInt8) : View where
  channel := c.number
  header := Command.headerFor lead instrument action volume
  note := if c.number = kitChannel then none else lead
  kit := if c.number = kitChannel then lead else none
  instrument := instrument
  action := action
  volume := volume

section

variable (c : Channel) (lead instrument : Option UInt8) (action : Option Action)
  (volume : Option UInt8)

theorem ofFields_note : (ofFields c lead instrument action volume).note =
    if c = .noise then none else lead := by
  cases c <;> rfl

theorem ofFields_kit : (ofFields c lead instrument action volume).kit =
    if c = .noise then lead else none := by
  cases c <;> rfl

theorem ofFields_header : (ofFields c lead instrument action volume).header =
    Command.headerFor ((ofFields c lead instrument action volume).kit.or
      (ofFields c lead instrument action volume).note) instrument action volume := by
  rw [ofFields_note, ofFields_kit]
  by_cases noise : c = .noise
  · simp [noise, ofFields]
  · simp [noise, ofFields]

end

theorem optionalByte_toList (field : Option UInt8) (rest : List UInt8) :
    optionalByte field.isSome (field.toList ++ rest) = .ok (field, rest) := by
  cases field <;> rfl

theorem optionalByte_shared (instrument : Option UInt8) (action : Option Action)
    (rest : List UInt8) :
    optionalByte (instrument.isSome || action.isSome)
        (Command.sharedByte instrument action ++ rest) =
      .ok ((Command.sharedByte instrument action).head?, rest) := by
  cases instrument <;> cases action <;> rfl

theorem shared_instrument {instrument : Option UInt8} (hi : ∀ i ∈ instrument, i < 16)
    (action : Option Action) :
    (if instrument.isSome then
      some (((Command.sharedByte instrument action).head?.getD 0) >>> 4) else none) =
        instrument := by
  cases instrument with
  | none => rfl
  | some i =>
      cases action with
      | none => exact congrArg some (Command.instrument_nibble i (hi i rfl))
      | some a => exact congrArg some (Command.shared_nibbles a.opcode i (hi i rfl)).1

theorem shared_code {instrument : Option UInt8} (hi : ∀ i ∈ instrument, i < 16) (a : Action) :
    ((Command.sharedByte instrument (some a)).head?.getD 0) &&& 0x0F = a.opcode.code := by
  cases instrument with
  | none => exact Command.code_and_mask a.opcode
  | some i => exact (Command.shared_nibbles a.opcode i (hi i rfl)).2

theorem actionOf_shared {instrument : Option UInt8} (hi : ∀ i ∈ instrument, i < 16)
    (a : Action) (rest : List UInt8) :
    actionOf ((Command.sharedByte instrument (some a)).head?.getD 0) (a.param :: rest) =
      .ok a := by
  simp only [actionOf, shared_code hi a, Opcode.ofCode?_code]

/-- The fields of an assembled command are read back, whatever comes behind it. -/
theorem decode_assemble_append (c : Channel) {lead instrument : Option UInt8}
    {action : Option Action} {volume : Option UInt8} (hi : ∀ i ∈ instrument, i < 16)
    (hv : ∀ v ∈ volume, v < 16) (rest : List UInt8) :
    decode c.number ((Command.assemble lead instrument action volume).toBytes ++ rest) =
      .ok (ofFields c lead instrument action volume) := by
  obtain ⟨bl, be, bi, bv, bm⟩ := Command.headerFor_bits lead instrument action volume
  have level : (if volume.isSome then
      some (Command.headerFor lead instrument action volume &&& volumeMask) else none) =
        volume := by
    cases volume with
    | none => rfl
    | some v => simp [bm v rfl, Command.volume_nibble v (hv v rfl)]
  rw [Command.toBytes_assemble]
  simp only [List.cons_append, decode, bl, be, bi, bv, level, Command.bodyFor,
    List.append_assoc, optionalByte_toList, optionalByte_shared, ok_bind, shared_instrument hi]
  cases action with
  | none => rfl
  | some a =>
      simp only [Option.isSome_some, if_true, Option.map_some, Option.toList_some,
        List.singleton_append, actionOf_shared hi]
      rfl

theorem decode_assemble (c : Channel) {lead instrument : Option UInt8} {action : Option Action}
    {volume : Option UInt8} (hi : ∀ i ∈ instrument, i < 16) (hv : ∀ v ∈ volume, v < 16) :
    decode c.number (Command.assemble lead instrument action volume).toBytes =
      .ok (ofFields c lead instrument action volume) := by
  rw [← List.append_nil (Command.assemble lead instrument action volume).toBytes]
  exact decode_assemble_append c hi hv []

end View

/-- A command is split off a row as what it shows, whatever comes behind it. -/
def Shows (c : Channel) (command : Command) (view : View) : Prop :=
  ∀ rest, splitCommand c (command.toBytes ++ rest) = .ok (view, rest)

theorem shows_assemble (c : Channel) {lead instrument : Option UInt8} {action : Option Action}
    {volume : Option UInt8} (hi : ∀ i ∈ instrument, i < 16) (hv : ∀ v ∈ volume, v < 16) :
    Shows c (.assemble lead instrument action volume)
      (.ofFields c lead instrument action volume) := by
  intro rest
  have length := Command.length_toBytes (.assemble lead instrument action volume)
  have decoded : View.decode c.number (Command.assemble lead instrument action volume).toBytes =
      .ok (.ofFields c lead instrument action volume) := View.decode_assemble c hi hv
  have front := Command.toBytes_assemble lead instrument action volume
  generalize Command.bodyFor lead instrument action = body at front
  rw [Command.length, show (Command.assemble lead instrument action volume).header =
    Command.headerFor lead instrument action volume from rfl] at length
  generalize Command.headerFor lead instrument action volume = header at front length
  rw [front] at length decoded ⊢
  simp only [splitCommand, List.cons_append]
  rw [if_neg (by simp at length ⊢; omega), ← List.cons_append, ← length, List.take_left,
    List.drop_left, decoded]
  rfl

theorem decodeRow_encodeRow {commands : PerChannel Command} {views : PerChannel View}
    (h : ∀ c, Shows c (commands.get c) (views.get c)) :
    decodeRow (encodeRow commands) = .ok views := by
  have bytes : encodeRow commands =
      (commands.get .pulse1).toBytes ++ ((commands.get .pulse2).toBytes ++
        ((commands.get .wave).toBytes ++ ((commands.get .noise).toBytes ++ []))) := rfl
  simp only [bytes, decodeRow, h .pulse1 _, h .pulse2 _, h .wave _, h .noise _, ok_bind]
  rfl

end Chiptune.Bytecode

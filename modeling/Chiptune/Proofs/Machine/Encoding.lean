import Chiptune.Proofs.Bytecode.Splitting
import Chiptune.Proofs.Machine.Sound

/-!
# Commands, step by step

A command is written into a buffer of four bytes, field by field: the header
collects a bit for each field, and a position tells where the next field goes.
Every field finds its place in the buffer, whatever a voice asks for. The bytes
of a command are the front of its buffer, as long as a table says.

A row is taken apart again with a position that moves from command to command.
-/

namespace Chiptune.Machine

open Bytecode Run

/-- Change the byte at an index of a buffer of four bytes. -/
def amend (buffer : Command) (f : UInt8 → UInt8) : Nat → Option Command
  | 0 => some { buffer with header := f buffer.header }
  | 1 => some { buffer with second := f buffer.second }
  | 2 => some { buffer with third := f buffer.third }
  | 3 => some { buffer with fourth := f buffer.fourth }
  | _ => none

/-- Write the lead byte; the position behind it is where the next field goes. -/
def writeLead (buffer : Command) : Option UInt8 → Option (Command × Nat)
  | none => pure (buffer, 1)
  | some lead => do
    let buffer ← amend buffer (· ||| leadFlag) 0
    let buffer ← amend buffer (fun _ => lead) 1
    let next ← add 64 1 1
    pure (buffer, next)

def writeInstrument (buffer : Command) (position : Nat) : Option UInt8 → Option Command
  | none => pure buffer
  | some instrument => do
    let buffer ← amend buffer (· ||| instrumentFlag) 0
    let nibble ← Byte.shiftLeft instrument 4
    amend buffer (fun _ => nibble) position

/-- Write an effect into the byte that the instrument may have, and its parameter
behind it. -/
def writeAction (buffer : Command) (position : Nat) : Option Action → Option Command
  | none => pure buffer
  | some action => do
    let buffer ← amend buffer (· ||| effectFlag) 0
    let buffer ← amend buffer (· ||| (action.opcode.code &&& 0x0F)) position
    let next ← add 64 position 1
    amend buffer (fun _ => action.param) next

def writeVolume (buffer : Command) : Option UInt8 → Option Command
  | none => pure buffer
  | some level => do
    let buffer ← amend buffer (· ||| volumeFlag) 0
    amend buffer (· ||| (level &&& volumeMask)) 0

/-- The buffer of a command with the given fields. -/
def assemble (lead instrument : Option UInt8) (action : Option Action) (level : Option UInt8) :
    Option Command := do
  let (buffer, position) ← writeLead .rest lead
  let buffer ← writeInstrument buffer position instrument
  let buffer ← writeAction buffer position action
  writeVolume buffer level

/-- The bytes of the command in a buffer. -/
def commandBytes (buffer : Command) : Option (List UInt8) := do
  let fields ← Byte.shiftRight buffer.header 5
  let length ← nth lengthTable fields.toNat
  slice buffer.raw 0 length

/-- A nibble has room for another one behind it. -/
theorem shiftLeft_nibble {i : UInt8} (nibble : i < 16) : Byte.shiftLeft i 4 = some (i <<< 4) := by
  have small : i.toNat < 16 := UInt8.lt_iff_toNat_lt.1 nibble
  exact Byte.shiftLeft_eq_some (by decide) (by omega)

/-- The flags of a header are set in the order in which its fields are written. -/
theorem headerFor_eq (lead instrument : Option UInt8) (action : Option Action)
    (level : Option UInt8) : Command.headerFor lead instrument action level =
      (if lead.isSome then leadFlag else 0) |||
        (if instrument.isSome then instrumentFlag else 0) |||
        (if action.isSome then effectFlag else 0) |||
        level.elim 0 fun v => volumeFlag ||| (v &&& volumeMask) := by
  unfold Command.headerFor
  rw [UInt8.or_assoc (if lead.isSome then leadFlag else 0),
    UInt8.or_comm (if action.isSome then effectFlag else 0), ← UInt8.or_assoc]
  cases level <;> rfl

/-- The fields of a command all have their place in the buffer. -/
theorem assemble_eq {lead instrument : Option UInt8} (nibble : ∀ i ∈ instrument, i < 16)
    (action : Option Action) (level : Option UInt8) :
    assemble lead instrument action level =
      some (Command.assemble lead instrument action level) := by
  have shifted : ∀ i ∈ instrument, Byte.shiftLeft i 4 = some (i <<< 4) :=
    fun i member => shiftLeft_nibble (nibble i member)
  rw [Command.assemble, headerFor_eq]
  cases lead <;> cases instrument <;> cases action <;> cases level <;>
    simp [assemble, writeLead, writeInstrument, writeAction, writeVolume, amend, add, fit, shifted,
      Command.code_and_mask, Command.rest, Command.ofBytes, Command.bodyFor, Command.sharedByte,
      UInt8.or_assoc]

theorem commandBytes_eq (command : Command) :
    commandBytes command = some command.toBytes := by
  have length : nth lengthTable (command.header >>> 5).toNat = some command.length :=
    lengthTable_header command.header
  have inside : command.length ≤ command.raw.length := commandLength_le command.header
  show (nth lengthTable (command.header >>> 5).toNat).bind
    (fun length => slice command.raw 0 length) = _
  rw [length, Option.bind_some, slice_eq_some (Nat.zero_le _) inside]
  rfl

def voiceAction (d : Chiptune.Dialect) (c : Channel) (v : Voice) : Run Fault (Option Action) :=
  match v.effect with
  | none => pure none
  | some e => Dialect.action d (UInt8.ofNat c.number) e

def voiceLevel (c : Channel) (v : Voice) : Option (Option UInt8) :=
  match v.volume with
  | none => some none
  | some volume => (Sound.quantize c volume).map some

/-- The buffer of the command that a voice has on a channel. -/
def encode (d : Chiptune.Dialect) (c : Channel) (v : Voice) : Run Fault Command := do
  let lead ← of (v.leadByte c)
  let action ← voiceAction d c v
  let level ← step (voiceLevel c v)
  step (assemble lead (v.instrumentField c) action level)

theorem voiceAction_eq (d : Chiptune.Dialect) (c : Channel) (v : Voice) :
    voiceAction d c v = of (v.action d c).outcome := by
  unfold voiceAction Voice.action
  cases v.effect with
  | none => rfl
  | some e => exact Dialect.action_eq d c e

theorem voiceLevel_eq (c : Channel) (v : Voice) :
    voiceLevel c v = some (v.volume.map c.quantize) := by
  unfold voiceLevel
  cases v.volume with
  | none => rfl
  | some volume => exact congrArg (Option.map some) (Sound.quantize_eq c volume)

theorem encode_eq (d : Chiptune.Dialect) (c : Channel) (v : Voice) :
    encode d c v = of (v.command d c) := by
  unfold encode Voice.command
  refine of_bind fun lead _ => ?_
  rw [voiceAction_eq, voiceLevel_eq]
  refine of_bind fun action _ => ?_
  rw [step_bind, assemble_eq (v.instrumentField_lt c)]
  rfl

/-- The bytes of a row whose channels have the given voices. -/
def encodeRow (d : Chiptune.Dialect) (pattern row : Nat) (voice : Channel → Run Fault Voice) :
    Run Failure (List UInt8) := do
  let commands ← Channel.all.mapM fun c => do
    let command ← mapError (Failure.cell ⟨pattern, row, c⟩) (do
      let v ← voice c
      encode d c v)
    step (commandBytes command)
  pure commands.flatten

theorem encodeRow_eq (d : Chiptune.Dialect) (pattern row : Nat)
    {voice : Channel → Except Fault Voice} {voice' : Channel → Run Fault Voice}
    (same : ∀ c, voice' c = of (voice c)) :
    encodeRow d pattern row voice' = of (encodeVoices d pattern row voice).outcome := by
  have each (c : Channel) : (do
      let command ← mapError (Failure.cell ⟨pattern, row, c⟩) (do
        let v ← voice' c
        encode d c v)
      step (commandBytes command)) =
      of ((encodeVoice d ⟨pattern, row, c⟩ (voice c)).outcome.map Command.toBytes) := by
    have command : (do
        let v ← voice' c
        encode d c v) = of (channelCommand d c (voice c)) := by
      rw [same]
      exact of_bind fun v _ => encode_eq d c v
    simp only [command, commandBytes_eq, mapError_of, encodeVoice_outcome]
    exact of_bind_pure
  unfold encodeRow
  rw [mapM_of fun c _ => each c, of_bind_pure]
  simp only [encodeVoices, Journal.bind_outcome, Channel.all, List.mapM_cons, List.mapM_nil]
  cases (encodeVoice d ⟨pattern, row, .pulse1⟩ (voice .pulse1)).outcome with
  | error failure => rfl
  | ok pulse1 =>
      cases (encodeVoice d ⟨pattern, row, .pulse2⟩ (voice .pulse2)).outcome with
      | error failure => rfl
      | ok pulse2 =>
          cases (encodeVoice d ⟨pattern, row, .wave⟩ (voice .wave)).outcome with
          | error failure => rfl
          | ok wave =>
              cases (encodeVoice d ⟨pattern, row, .noise⟩ (voice .noise)).outcome <;> rfl

/-- The instrument in the byte that it shares with the effect. -/
def instrumentOf (header shared : UInt8) : Option (Option UInt8) :=
  if hasInstrument header then (Byte.shiftRight shared 4).map some else some none

/-- The fields of a command. Reading the next byte is no step that can leave its
range, since it fails where there is none. -/
def decode (number : UInt8) : List UInt8 → Run Malformed View
  | [] => throw (.commandEmpty number.toNat)
  | header :: body => do
    let (lead, body) ← of (View.optionalByte (hasLead header) body)
    let (shared, body) ← of (View.optionalByte (hasInstrument header || hasEffect header) body)
    let shared := shared.getD 0
    let instrument ← step (instrumentOf header shared)
    let action ← of (if hasEffect header then (View.actionOf shared body).map some else .ok none)
    pure {
      channel := number.toNat
      header := header
      note := if number = 4 then none else lead
      kit := if number = 4 then lead else none
      instrument := instrument
      action := action
      volume := if hasVolume header then some (header &&& volumeMask) else none }

theorem instrumentOf_eq (header shared : UInt8) : instrumentOf header shared =
    some (if hasInstrument header then some (shared >>> 4) else none) := by
  unfold instrumentOf
  split <;> rfl

theorem decode_eq (c : Channel) (bytes : List UInt8) :
    decode (UInt8.ofNat c.number) bytes = of (View.decode c.number bytes) := by
  have number : (UInt8.ofNat c.number).toNat = c.number := by cases c <;> rfl
  have kit : (UInt8.ofNat c.number = 4) = (c.number = kitChannel) := by cases c <;> decide
  cases bytes with
  | nil =>
      rw [decode, number]
      rfl
  | cons header body =>
      unfold decode View.decode
      simp only [number, kit, instrumentOf_eq, step_bind]
      refine of_bind fun front _ => of_bind fun middle _ => ?_
      cases hasEffect header with
      | false => rfl
      | true => exact of_bind fun action _ => rfl

/-- The command of the channel with an index at a position of a row, and the
position behind it. -/
def splitAt (row : List UInt8) (index position : Nat) : Run Malformed (View × Nat) := do
  let first ← step (toByte index)
  let number ← step (Byte.add first 1)
  match row[position]? with
  | none => throw (.rowEnds number.toNat)
  | some header => do
    let fields ← step (Byte.shiftRight header 5)
    let length ← step (nth lengthTable fields.toNat)
    let stop ← step (add 64 position length)
    if stop ≤ row.length then do
      let bytes ← step (slice row position stop)
      let view ← decode number bytes
      let next ← step (add 64 position length)
      pure (view, next)
    else throw (.commandTruncated number.toNat)

def decodeRow (row : List UInt8) : Run Malformed (PerChannel View) := do
  let (pulse1, position) ← splitAt row 0 0
  let (pulse2, position) ← splitAt row 1 position
  let (wave, position) ← splitAt row 2 position
  let (noise, position) ← splitAt row 3 position
  if position = row.length then pure ⟨pulse1, pulse2, wave, noise⟩
  else do
    let trailing ← step (sub row.length position)
    throw (.trailingBytes trailing)

/-- A position that has passed the commands of the earlier channels is where the
command of the next channel is split off. -/
theorem splitAt_eq (before rest : List UInt8) (c : Channel) (early : before.length ≤ 4 * c.index) :
    splitAt (before ++ rest) c.index before.length =
      of ((splitCommand c rest).map fun split =>
        (split.1, before.length + (rest.length - split.2.length))) := by
  have first : toByte c.index = some (UInt8.ofNat c.index) := by cases c <;> rfl
  have number : Byte.add (UInt8.ofNat c.index) 1 = some (UInt8.ofNat c.number) := by
    cases c <;> rfl
  have shown : (UInt8.ofNat c.number).toNat = c.number := by cases c <;> rfl
  have last : c.index < 4 := by cases c <;> decide
  have front : (before ++ rest)[before.length]? = rest[0]? := by
    rw [List.getElem?_append_right (Nat.le_refl _), Nat.sub_self]
  unfold splitAt splitCommand
  simp only [first, number, front, step_bind, shown]
  cases rest with
  | nil => rfl
  | cons header tail =>
      have table : nth lengthTable (header >>> 5).toNat = some (commandLength header) :=
        lengthTable_header header
      have small := commandLength_le header
      have fits : before.length + commandLength header < 2 ^ 64 := by omega
      have fields : Byte.shiftRight header 5 = some (header >>> 5) := rfl
      simp only [List.getElem?_cons_zero, fields, step_bind, table, add_eq_some fits]
      by_cases short : (header :: tail).length < commandLength header
      · rw [if_pos short, if_neg (by rw [List.length_append]; omega)]
        rfl
      · have inside : before.length + commandLength header ≤ (before ++ header :: tail).length := by
          rw [List.length_append]
          omega
        have bytes : slice (before ++ header :: tail) before.length
            (before.length + commandLength header) =
              some ((header :: tail).take (commandLength header)) := by
          rw [slice_eq_some (Nat.le_add_right _ _) inside, List.drop_left, Nat.add_sub_cancel_left]
        have behind : (header :: tail).length - ((header :: tail).drop
            (commandLength header)).length = commandLength header := by
          rw [List.length_drop]
          omega
        rw [if_neg short, if_pos inside, bytes, step_bind, decode_eq]
        cases View.decode c.number ((header :: tail).take (commandLength header)) with
        | error cause => rfl
        | ok view =>
            show (pure (view, before.length + commandLength header) : Run _ _) = pure (view,
              before.length + ((header :: tail).length - ((header :: tail).drop
                (commandLength header)).length))
            rw [behind]

/-- Going on behind a command, which has four bytes at most, is going on with the
rest of the row. -/
theorem splitAt_bind {α : Type} {before rest : List UInt8} (c : Channel)
    (early : before.length ≤ 4 * c.index) {f : View × List UInt8 → Except Malformed α}
    {g : View × Nat → Run Malformed α}
    (next : ∀ view bytes after, rest = bytes ++ after → bytes.length ≤ 4 →
      g (view, (before ++ bytes).length) = of (f (view, after))) :
    (splitAt (before ++ rest) c.index before.length >>= g) = of (splitCommand c rest >>= f) := by
  rw [splitAt_eq before rest c early]
  refine of_map_bind fun taken split => ?_
  obtain ⟨view, after⟩ := taken
  obtain ⟨bytes, rfl, command, -⟩ := splitCommand_eq_ok_iff.1 split
  have short : bytes.length ≤ 4 := by
    obtain ⟨length, -⟩ := command
    exact Nat.le_trans (Nat.le_of_eq (lengthTable_eq_some_iff.1 length).symm) (commandLength_le _)
  rw [← next view bytes after rfl short, List.length_append, List.length_append,
    Nat.add_sub_cancel]

theorem decodeRow_eq (row : List UInt8) : decodeRow row = of (Bytecode.decodeRow row) := by
  show (splitAt ([] ++ row) Channel.pulse1.index ([] : List UInt8).length >>= _) =
    of (splitCommand .pulse1 row >>= _)
  refine splitAt_bind .pulse1 (Nat.zero_le _) fun pulse1 bytes₁ rest split₁ short₁ => ?_
  subst split₁
  refine splitAt_bind .pulse2 short₁ fun pulse2 bytes₂ rest split₂ short₂ => ?_
  subst split₂
  have short₁₂ : (bytes₁ ++ bytes₂).length ≤ 8 := by
    rw [List.length_append]
    exact Nat.add_le_add short₁ short₂
  rw [← List.append_assoc]
  refine splitAt_bind .wave short₁₂ fun wave bytes₃ rest split₃ short₃ => ?_
  subst split₃
  have short₁₂₃ : (bytes₁ ++ bytes₂ ++ bytes₃).length ≤ 12 := by
    rw [List.length_append]
    exact Nat.add_le_add short₁₂ short₃
  rw [← List.append_assoc]
  refine splitAt_bind .noise short₁₂₃ fun noise bytes₄ rest split₄ short₄ => ?_
  subst split₄
  rw [← List.append_assoc]
  generalize bytes₁ ++ bytes₂ ++ bytes₃ ++ bytes₄ = commands
  cases rest with
  | nil =>
      rw [List.append_nil]
      exact if_pos rfl
  | cons b rest =>
      have behind : ¬ commands.length = (commands ++ b :: rest).length := by
        rw [List.length_append, List.length_cons]
        omega
      have trailing : sub (commands ++ b :: rest).length commands.length =
          some (b :: rest).length := by
        rw [List.length_append, sub_eq_some (Nat.le_add_right _ _), Nat.add_sub_cancel_left]
      refine (if_neg behind).trans ?_
      rw [trailing]
      rfl

end Chiptune.Machine

import Chiptune.Proofs.Machine.Encoding

/-!
# Commands give their voices back

A voice has a command unless it cuts the noise channel while it asks for a kit,
or its effect is a fault. The command shows what the voice asked for, whatever
comes behind it. Step by step, the writer changes a buffer that is zero at
first; the places that it reaches are the bytes that the header announces, in
all layouts, and the buffer stays zero behind them.
-/

namespace Chiptune

open Bytecode

namespace Machine

/-- A change of the byte at an index of a buffer. -/
structure Change where
  index : Nat
  apply : UInt8 → UInt8

/-- Make changes in turn, as long as they stay inside the buffer. -/
def change (buffer : Command) (changes : List Change) : Option Command :=
  changes.foldlM (fun buffer c => amend buffer c.apply c.index) buffer

def leadChanges : Option UInt8 → List Change
  | none => []
  | some lead => [⟨0, (· ||| leadFlag)⟩, ⟨1, fun _ => lead⟩]

def instrumentChanges (position : Nat) : Option UInt8 → List Change
  | none => []
  | some instrument => [⟨0, (· ||| instrumentFlag)⟩, ⟨position, fun _ => instrument <<< 4⟩]

def actionChanges (position : Nat) : Option Action → List Change
  | none => []
  | some action => [⟨0, (· ||| effectFlag)⟩,
      ⟨position, (· ||| (action.opcode.code &&& 0x0F))⟩, ⟨position + 1, fun _ => action.param⟩]

def volumeChanges : Option UInt8 → List Change
  | none => []
  | some level => [⟨0, (· ||| volumeFlag)⟩, ⟨0, (· ||| (level &&& volumeMask))⟩]

/-- All changes that the writer makes for the given fields. The instrument does not
move the position, so an effect goes into the same byte. -/
def changesFor (lead instrument : Option UInt8) (action : Option Action)
    (level : Option UInt8) : List Change :=
  let position := 1 + lead.isSome.toNat
  leadChanges lead ++ instrumentChanges position instrument ++ actionChanges position action ++
    volumeChanges level

theorem change_append (buffer : Command) (first second : List Change) :
    change buffer (first ++ second) =
      (change buffer first).bind fun buffer => change buffer second :=
  List.foldlM_append

theorem writeLead_eq_change (buffer : Command) (lead : Option UInt8) :
    writeLead buffer lead =
      (change buffer (leadChanges lead)).map (·, 1 + lead.isSome.toNat) := by
  cases lead <;> rfl

theorem writeInstrument_eq_change (buffer : Command) (position : Nat)
    {instrument : Option UInt8} (nibble : ∀ i ∈ instrument, i < 16) :
    writeInstrument buffer position instrument =
      change buffer (instrumentChanges position instrument) := by
  cases instrument with
  | none => rfl
  | some i => simp [writeInstrument, change, instrumentChanges, shiftLeft_nibble (nibble i rfl)]

theorem writeAction_eq_change (buffer : Command) {position : Nat} (small : position ≤ 2)
    (action : Option Action) :
    writeAction buffer position action = change buffer (actionChanges position action) := by
  cases action with
  | none => rfl
  | some a =>
      have next : add 64 position 1 = some (position + 1) := add_eq_some (by omega)
      simp [writeAction, change, actionChanges, next]

theorem writeVolume_eq_change (buffer : Command) (level : Option UInt8) :
    writeVolume buffer level = change buffer (volumeChanges level) := by
  cases level <;> rfl

/-- The writer makes these changes, one after the other. -/
theorem assemble_eq_change {lead instrument : Option UInt8} (nibble : ∀ i ∈ instrument, i < 16)
    (action : Option Action) (level : Option UInt8) :
    assemble lead instrument action level =
      change .rest (changesFor lead instrument action level) := by
  have small : 1 + lead.isSome.toNat ≤ 2 := by
    have := Bool.toNat_le lead.isSome
    omega
  rw [assemble, writeLead_eq_change, changesFor, change_append, change_append, change_append]
  cases change .rest (leadChanges lead) with
  | none => rfl
  | some buffer =>
      simp only [Option.map_some, Option.bind_eq_bind, Option.bind_some,
        writeInstrument_eq_change _ _ nibble, writeAction_eq_change _ small,
        writeVolume_eq_change, Option.bind_assoc]

theorem raw_amend {buffer after : Command} {f : UInt8 → UInt8} {i : Nat}
    (h : amend buffer f i = some after) : after.raw = buffer.raw.modify i f := by
  unfold amend at h
  split at h <;> cases h <;> rfl

/-- A byte that no change is made to stays what it is. -/
theorem change_frame {buffer after : Command} {changes : List Change}
    (h : change buffer changes = some after) {j : Nat}
    (untouched : ∀ c ∈ changes, c.index ≠ j) : after.raw[j]? = buffer.raw[j]? := by
  induction changes generalizing buffer with
  | nil =>
      cases h
      rfl
  | cons c changes ih =>
      rw [change, List.foldlM_cons, Option.bind_eq_bind, Option.bind_eq_some_iff] at h
      obtain ⟨next, first, rest⟩ := h
      rw [List.forall_mem_cons] at untouched
      rw [ih rest untouched.2, raw_amend first]
      exact List.getElem?_modify_ne _ _ untouched.1

/-- The changes reach the bytes of the command, beside its header, and no others. -/
theorem changed_iff {lead instrument : Option UInt8} {action : Option Action}
    {level : Option UInt8} {i : Nat} :
    (i = 0 ∨ ∃ c ∈ changesFor lead instrument action level, c.index = i) ↔
      i < (Command.assemble lead instrument action level).length := by
  rw [Command.length_assemble]
  cases lead <;> cases instrument <;> cases action <;> cases level <;>
    simp [changesFor, leadChanges, instrumentChanges, actionChanges, volumeChanges] <;> omega

/-- What a change does not reach is zero. -/
theorem eq_zero_of_drop {command : Command} {changes : List Change}
    (h : change .rest changes = some command) {length : Nat}
    (reached : ∀ c ∈ changes, c.index < length) : ∀ byte ∈ command.raw.drop length, byte = 0 := by
  intro byte member
  obtain ⟨i, found⟩ := List.mem_iff_getElem?.1 member
  have untouched : ∀ c ∈ changes, c.index ≠ length + i := by
    intro c made
    have := reached c made
    omega
  rw [List.getElem?_drop, change_frame h untouched] at found
  have zeros : Command.rest.raw = List.replicate 4 0 := rfl
  rw [zeros] at found
  exact List.eq_of_mem_replicate (List.mem_of_getElem? found)

/-- The changes that the writer makes for a voice. -/
def changesOf (d : Chiptune.Dialect) (c : Channel) (v : Voice) : Except Fault (List Change) := do
  let lead ← v.leadByte c
  let action ← (v.action d c).outcome
  .ok (changesFor lead (v.instrumentField c) action (v.volume.map c.quantize))

theorem encode_eq_change (d : Chiptune.Dialect) (c : Channel) (v : Voice) :
    encode d c v = Run.of (changesOf d c v) >>= fun changes => Run.step (change .rest changes) := by
  unfold encode changesOf
  rw [voiceAction_eq, voiceLevel_eq]
  cases v.leadByte c with
  | error fault => rfl
  | ok lead =>
      cases (v.action d c).outcome with
      | error fault => rfl
      | ok action =>
          show Run.step (assemble _ _ _ _) = Run.step (change _ _)
          rw [assemble_eq_change (v.instrumentField_lt c)]

end Machine

namespace Voice

/-- A cut on the noise channel is a kit of its own; no other one goes with it. -/
def CutsKit (c : Channel) (v : Voice) : Prop :=
  c = .noise ∧ v.note = some .cut ∧ v.instrument ≠ 0

/-- Why a voice has no command. -/
inductive Refused (d : Dialect) (c : Channel) (v : Voice) : Fault → Prop
  | cutWithKit : v.CutsKit c → Refused d c v .cutWithKit
  | effect {e : Effect} {fault : Fault} : ¬ v.CutsKit c → v.effect = some e →
      (d.action c e).outcome = .error fault → Refused d c v fault

/-- The view of a command shows what the voice asks for. -/
structure ShownBy (d : Dialect) (c : Channel) (v : Voice) (view : View) : Prop where
  note : view.note = if c = .noise then none else v.note.map Note.byte
  kit : view.kit =
    if c ≠ .noise then none
    else if v.note = some .cut then some 0xFE
    else if v.instrument = 0 then none
    else some (v.instrument &&& 15)
  instrument : view.instrument =
    if c = .noise ∨ v.instrument = 0 then none else some (v.instrument &&& c.instrumentMask)
  action : match v.effect with
    | none => view.action = none
    | some e => (d.action c e).outcome = .ok view.action
  volume : view.volume = v.volume.map c.quantize

/-- What the command of a voice is: the places that the writer reaches, the zeros
behind them, and what reads back. -/
structure EncodedAs (d : Dialect) (c : Channel) (v : Voice) (command : Command) : Prop where
  written : ∃ changes, Machine.changesOf d c v = .ok changes ∧
    Machine.change .rest changes = some command ∧
    ∀ i, (i = 0 ∨ ∃ change ∈ changes, change.index = i) ↔ i < command.length
  unwritten : ∀ byte ∈ command.raw.drop command.length, byte = 0
  shown : ∀ suffix, ∃ view, View.decode c.number (command.toBytes ++ suffix) = .ok view ∧
    v.ShownBy d c view

variable {d : Dialect} {c : Channel} {v : Voice}

theorem kit_eq_error_iff {mask : UInt8} {fault : Fault} :
    v.kit mask = .error fault ↔
      (v.note = some .cut ∧ v.instrument ≠ 0) ∧ fault = .cutWithKit := by
  unfold kit
  split
  case isTrue cut =>
    split
    · simp [*]
    · simp [*, eq_comm]
  case isFalse sounding =>
    split <;> simp [sounding]

theorem kit_eq_ok {mask : UInt8} {lead : Option UInt8} (h : v.kit mask = .ok lead) :
    lead = if v.note = some .cut then some 0xFE
      else if v.instrument = 0 then none
      else some (v.instrument &&& mask) := by
  unfold kit at h
  split at h
  case isTrue cut =>
    rw [if_pos cut]
    split at h <;> cases h
    rfl
  case isFalse sounding =>
    rw [if_neg sounding]
    split at h <;> cases h <;> simp [*]

theorem leadByte_eq_error_iff {fault : Fault} :
    v.leadByte c = .error fault ↔ v.CutsKit c ∧ fault = .cutWithKit := by
  by_cases noise : c = .noise
  · subst noise
    rw [CutsKit, and_iff_right rfl]
    exact kit_eq_error_iff
  · rw [leadByte_pitched noise]
    simp [CutsKit, noise]

theorem exists_leadByte_iff : (∃ lead, v.leadByte c = .ok lead) ↔ ¬ v.CutsKit c := by
  rw [← not_iff_not, ← exists_error_iff, not_not]
  simp [leadByte_eq_error_iff]

theorem action_eq_error_iff {fault : Fault} : (v.action d c).outcome = .error fault ↔
    ∃ e, v.effect = some e ∧ (d.action c e).outcome = .error fault := by
  unfold action
  cases v.effect <;> simp

/-- A voice has no command exactly for the reasons named. -/
theorem command_eq_error_iff {fault : Fault} :
    v.command d c = .error fault ↔ v.Refused d c fault := by
  simp only [command, bind_eq_error_iff, leadByte_eq_error_iff, action_eq_error_iff]
  constructor
  · rintro (⟨cuts, rfl⟩ | ⟨lead, played, ⟨e, carried, failed⟩ | ⟨_, _, ⟨⟩⟩⟩)
    · exact .cutWithKit cuts
    · exact .effect (exists_leadByte_iff.1 ⟨lead, played⟩) carried failed
  · rintro (cuts | ⟨plain, carried, failed⟩)
    · exact .inl ⟨cuts, rfl⟩
    · obtain ⟨lead, played⟩ := exists_leadByte_iff.2 plain
      exact .inr ⟨lead, played, .inl ⟨_, carried, failed⟩⟩

theorem instrumentField_pitched (pitched : c ≠ .noise) : v.instrumentField c =
    if v.instrument = 0 then none else some (v.instrument &&& c.instrumentMask) := by
  rw [instrumentField, Channel.lead_of_ne_noise pitched]

/-- The fields of a voice are what its command shows. -/
theorem shownBy_ofFields {lead : Option UInt8} {action : Option Action}
    (hl : v.leadByte c = .ok lead) (ha : (v.action d c).outcome = .ok action) :
    v.ShownBy d c
      (.ofFields c lead (v.instrumentField c) action (v.volume.map c.quantize)) := by
  have effect : match v.effect with
      | none => action = none
      | some e => (d.action c e).outcome = .ok action := by
    unfold Voice.action at ha
    cases carried : v.effect with
    | none =>
        rw [carried] at ha
        exact (Except.ok.inj ha).symm
    | some e =>
        rw [carried] at ha
        exact ha
  by_cases noise : c = .noise
  · subst noise
    exact ⟨rfl, kit_eq_ok hl, rfl, effect, rfl⟩
  · rw [leadByte_pitched noise] at hl
    cases hl
    refine ⟨?_, ?_, ?_, effect, rfl⟩
    · rw [View.ofFields_note]
    · rw [View.ofFields_kit, if_neg noise, if_pos noise]
    · simp only [noise, false_or]
      exact instrumentField_pitched noise

/-- A voice has a command unless it is refused for one of the reasons named, and the
command is what the voice asks for. -/
theorem encode_reads_back (d : Dialect) (c : Channel) (v : Voice) :
    (∀ fault, (v.encode d c).outcome = .error fault ↔ v.Refused d c fault) ∧
    (∀ command, (v.encode d c).outcome = .ok command → v.EncodedAs d c command) ∧
    Machine.encode d c v =
      Machine.Run.of (Machine.changesOf d c v) >>= fun changes =>
        Machine.Run.step (Machine.change .rest changes) := by
  rw [encode_outcome]
  refine ⟨fun _ => command_eq_error_iff, ?_, Machine.encode_eq_change d c v⟩
  intro command encoded
  simp only [Voice.command, bind_eq_ok_iff] at encoded
  obtain ⟨lead, hl, action, ha, ⟨⟩⟩ := encoded
  have changes : Machine.changesOf d c v = .ok (Machine.changesFor lead (v.instrumentField c)
      action (v.volume.map c.quantize)) := by
    rw [Machine.changesOf, hl, ok_bind, ha, ok_bind]
  have made : Machine.change .rest (Machine.changesFor lead (v.instrumentField c) action
      (v.volume.map c.quantize)) = some (.assemble lead (v.instrumentField c) action
        (v.volume.map c.quantize)) := by
    rw [← Machine.assemble_eq_change (v.instrumentField_lt c),
      Machine.assemble_eq (v.instrumentField_lt c)]
  refine ⟨⟨_, changes, made, fun _ => Machine.changed_iff⟩, ?_, ?_⟩
  · refine Machine.eq_zero_of_drop made fun change member => ?_
    exact Machine.changed_iff.1 (.inr ⟨change, member, rfl⟩)
  · intro suffix
    exact ⟨_, View.decode_assemble_append c (v.instrumentField_lt c) (v.level_lt c) suffix,
      shownBy_ofFields hl ha⟩

/-- A voice with all fields takes a whole buffer and reads back; with a cut for its
note, the same voice has no command on the noise channel. -/
theorem encode_fullVoice_reads_back :
    (∃ command, (encode ⟨.screamTracker, false⟩ .pulse2
        ⟨some (.index 12), 1, some 32, some (.ofLetter 'J' 0x37)⟩).outcome = .ok command ∧
      command.raw = [0xF8, 12, 0x11, 0x37] ∧
      ∀ suffix, ∃ view, View.decode 2 ([0xF8, 12, 0x11, 0x37] ++ suffix) = .ok view ∧
        view.note = some 12 ∧ view.kit = none ∧ view.instrument = some 1 ∧
        view.action = some ⟨.arpeggio, 0x37⟩ ∧ view.volume = some 8) ∧
    (encode ⟨.screamTracker, false⟩ .noise
        ⟨some .cut, 1, some 32, some (.ofLetter 'J' 0x37)⟩).outcome = .error .cutWithKit := by
  constructor
  · obtain ⟨-, encoded, -⟩ := encode_reads_back ⟨.screamTracker, false⟩ .pulse2
      ⟨some (.index 12), 1, some 32, some (.ofLetter 'J' 0x37)⟩
    refine ⟨⟨0xF8, 12, 0x11, 0x37⟩, by decide, rfl, fun suffix => ?_⟩
    obtain ⟨view, decoded, shown⟩ := (encoded ⟨0xF8, 12, 0x11, 0x37⟩ (by decide)).shown suffix
    have action : (Dialect.action ⟨.screamTracker, false⟩ .pulse2
        (.ofLetter 'J' 0x37)).outcome = .ok (some ⟨.arpeggio, 0x37⟩) := by decide
    have shownAction := shown.action
    exact ⟨view, decoded, shown.note, shown.kit, shown.instrument,
      Except.ok.inj (shownAction.symm.trans action), shown.volume⟩
  · obtain ⟨refused, -, -⟩ := encode_reads_back ⟨.screamTracker, false⟩ .noise
      ⟨some .cut, 1, some 32, some (.ofLetter 'J' 0x37)⟩
    exact (refused _).2 (.cutWithKit ⟨rfl, rfl, by decide⟩)

end Voice

end Chiptune

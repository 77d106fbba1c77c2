import Chiptune.Proofs.Bytecode.Splitting
import Chiptune.Proofs.Compilation
import Chiptune.Proofs.Sound

/-!
# What the player is given

The player trusts its commands: it looks up notes, kits and instruments and
writes levels and masks to registers without checking any of them. `Legal` says
which commands it plays as they are meant. Every command of a compiled song is
legal, whatever the module contains.
-/

namespace Chiptune

open Bytecode

/-- The player can use the parameter of an effect on a channel. -/
def UsableParam (c : Channel) (param : UInt8) : Opcode → Prop
  | .pan => param ∈ [(0x10 : UInt8), 0x11, 0x01].map (· <<< UInt8.ofNat (c.number - 1))
  | .noteCut | .event => param ≤ 15
  | .volumeSlide => c ≠ .wave ∧ param ≤ 15 ∧ 1 ≤ param &&& 0x07
  | .speed => param ≠ 0
  | .arpeggio | .vibrato | .patternJump | .breakSetStep => True

/-- A nibble of the shared byte is zero unless the header announces it. -/
def UnusedNibblesZero : List UInt8 → Prop
  | [] => True
  | header :: body => ∀ shared ∈ sharedOf header body,
      (hasInstrument header = false → shared >>> 4 = 0) ∧
        (hasEffect header = false → shared &&& 0x0F = 0)

/-- The bytes of a command, which shows the given view, are legal on a channel. -/
structure Legal (c : Channel) (bytes : List UInt8) (v : View) : Prop where
  note : ∀ note ∈ v.note, c ≠ .noise ∧ (note ≤ 71 ∨ note = 0xFE)
  kit : ∀ kit ∈ v.kit, c = .noise ∧ (kit ≤ 15 ∨ kit = 0xFE)
  instrument : ∀ instrument ∈ v.instrument, c ≠ .noise ∧
    instrument ≤ if c = .wave then 7 else 3
  volume : ∀ volume ∈ v.volume, volume ≤ if c = .wave then 4 else 15
  silent : v.volume = none → v.header &&& 0x0F = 0
  param : ∀ action ∈ v.action, UsableParam c action.param action.opcode
  nibbles : UnusedNibblesZero bytes

/-- The row is four commands, each of them legal on its channel. -/
def LegalRow (row : List UInt8) : Prop :=
  ∃ pieces views, Splits row pieces ∧ decodeRow row = .ok views ∧ ∀ c,
    View.decode c.number (pieces.get c) = .ok (views.get c) ∧ Legal c (pieces.get c) (views.get c)

theorem low_le (e : Effect) : e.low ≤ 15 := by
  have table : ∀ param : UInt8, param &&& 0x0F ≤ 15 := forall_byte (by decide +kernel)
  exact table e.param

/-- A slide upwards has a delay, which its amount leaves over. -/
theorem rising_delay : ∀ amount : UInt8, amount ≠ 0 → ¬ 8 ≤ amount →
    (slideUp ||| (8 - amount)) ≤ 15 ∧ 1 ≤ (slideUp ||| (8 - amount)) &&& 0x07 :=
  forall_byte (by decide +kernel)

theorem falling_delay : ∀ amount : UInt8, amount ≠ 0 → ¬ 8 ≤ amount →
    8 - amount ≤ 15 ∧ 1 ≤ (8 - amount) &&& 0x07 :=
  forall_byte (by decide +kernel)

theorem high_ne_zero : ∀ param : UInt8, param ≠ 0 → param &&& 0x0F = 0 → param >>> 4 ≠ 0 :=
  forall_byte (by decide +kernel)

theorem slideAction_usable {c : Channel} {param : UInt8} {action : Action}
    (h : slideAction c param = .ok (some action)) : UsableParam c action.param action.opcode := by
  unfold slideAction at h
  simp only at h
  split at h
  · cases h
  rename_i pitched
  split at h
  · cases h
  rename_i nonzero
  split at h
  · cases h
  split at h
  · rename_i rising
    split at h
    · cases h
    · rename_i slow
      cases h
      exact ⟨pitched, rising_delay _ (high_ne_zero _ nonzero rising) slow⟩
  · rename_i falling
    split at h
    · split at h
      · cases h
      · rename_i slow
        cases h
        exact ⟨pitched, falling_delay _ falling slow⟩
    · cases h

namespace Dialect

variable {d : Dialect} {c : Channel} {e : Effect} {action : Action}

theorem screamTrackerAction_usable (h : d.screamTrackerAction c e = .ok (some action)) :
    UsableParam c action.param action.opcode := by
  unfold screamTrackerAction at h
  simp only at h
  split at h
  · split at h
    · cases h
    · rename_i nonzero
      cases h
      exact Sound.playerSpeed_ne_zero nonzero _
  · cases h
    trivial
  · cases h
    trivial
  · exact slideAction_usable h
  · cases h
    trivial
  · cases h
    trivial
  · split at h
    · cases h
      exact Sound.panMask_mem c _
    split at h
    · cases h
      exact low_le e
    split at h
    · cases h
      exact low_le e
    · cases h
  · cases h

theorem protrackerAction_usable (h : d.protrackerAction c e = .ok (.ok action)) :
    UsableParam c action.param action.opcode := by
  unfold protrackerAction at h
  simp only at h
  split at h
  · cases h
    trivial
  · cases h
    trivial
  · cases h
    trivial
  · split at h
    · cases h
      exact Sound.panMask_mem c _
    split at h
    · cases h
      exact low_le e
    · cases h
  · split at h
    · cases h
    rename_i nonzero
    split at h
    · cases h
    · cases h
      exact Sound.playerSpeed_ne_zero nonzero _
  · cases h

/-- Whatever the dialect, an effect of the player gets a parameter that it can use. -/
theorem action_usable (h : (d.action c e).outcome = .ok (some action)) :
    UsableParam c action.param action.opcode := by
  unfold Dialect.action at h
  split at h
  · exact screamTrackerAction_usable h
  · split at h
    · cases h
    · rename_i meaning
      cases h
      exact protrackerAction_usable meaning
    · cases h

end Dialect

namespace Voice

/-- If a voice has a pitch, it is one of the player's notes. -/
def Tuned (v : Voice) : Prop := ∀ index, v.note = some (.index index) → Sound.IsNote index

variable {c : Channel} {v : Voice}

theorem kit_legal {kit : UInt8} (h : v.kit 15 = .ok (some kit)) : kit ≤ 15 ∨ kit = 0xFE := by
  have masked : ∀ instrument : UInt8, instrument &&& 15 ≤ 15 := forall_byte (by decide +kernel)
  unfold Voice.kit at h
  split at h
  · split at h
    · cases h
      exact .inr rfl
    · cases h
  split at h
  · cases h
  · cases h
    exact .inl (masked _)

theorem leadByte_legal (tuned : v.Tuned) {lead : UInt8} (h : v.leadByte c = .ok (some lead)) :
    if c = .noise then lead ≤ 15 ∨ lead = 0xFE else lead ≤ 71 ∨ lead = 0xFE := by
  by_cases noise : c = .noise
  · subst noise
    rw [if_pos rfl]
    exact kit_legal h
  · rw [if_neg noise]
    rw [leadByte_pitched noise] at h
    obtain ⟨note, hnote, rfl⟩ := Option.map_eq_some_iff.1 (Except.ok.inj h)
    cases note with
    | index index => exact .inl (tuned index hnote)
    | cut => exact .inr rfl

theorem instrumentField_legal {instrument : UInt8} (h : v.instrumentField c = some instrument) :
    c ≠ .noise ∧ instrument ≤ c.lastInstrument := by
  by_cases noise : c = .noise
  · subst noise
    cases h
  · refine ⟨noise, ?_⟩
    have masked := Channel.instrumentMask_and_le noise v.instrument
    have given : (if v.instrument = 0 then none else some (v.instrument &&& c.instrumentMask)) =
        some instrument := by
      cases c
      · exact h
      · exact h
      · exact h
      · exact absurd rfl noise
    split at given
    · cases given
    · cases given
      exact masked

theorem action_legal {d : Dialect} {action : Action}
    (h : (v.action d c).outcome = .ok (some action)) :
    UsableParam c action.param action.opcode := by
  unfold Voice.action at h
  split at h
  · cases h
  · exact Dialect.action_usable h

end Voice

theorem headerFor_silent (lead instrument : Option UInt8) (action : Option Action) :
    Command.headerFor lead instrument action none &&& 0x0F = 0 := by
  have table : ∀ lead instrument action : Bool,
      ((if lead then leadFlag else 0) ||| (if action then effectFlag else 0) |||
        (if instrument then instrumentFlag else 0) ||| 0) &&& 0x0F = 0 := by decide
  exact table lead.isSome instrument.isSome action.isSome

/-- The shared byte of a command holds nothing but what the header announces. -/
theorem unusedNibblesZero_assemble {lead instrument : Option UInt8} {action : Option Action}
    {volume : Option UInt8} :
    UnusedNibblesZero (Command.assemble lead instrument action volume).toBytes := by
  have low : ∀ i : UInt8, i <<< 4 &&& 0x0F = 0 := forall_byte (by decide +kernel)
  have high : ∀ opcode : Opcode, opcode.code >>> 4 = 0 := by
    intro opcode
    cases opcode <;> rfl
  obtain ⟨hl, he, hi, -, -⟩ := Command.headerFor_bits lead instrument action volume
  rw [Command.toBytes_assemble]
  intro shared found
  rw [sharedOf, hl, Option.mem_def, Command.bodyFor] at found
  have first : (Command.sharedByte instrument action ++ (action.map Action.param).toList)[0]? =
      some shared := by
    cases lead <;> exact found
  rw [hi, he]
  have announced {α : Type} (field : α) {P : Prop} : (some field).isSome = false → P := by
    intro absent
    cases absent
  cases instrument with
  | none =>
      cases action with
      | none => cases first
      | some a =>
          cases first
          exact ⟨fun _ => high a.opcode, announced a⟩
  | some i =>
      cases action with
      | none =>
          cases first
          exact ⟨announced i, fun _ => low i⟩
      | some a => exact ⟨announced i, announced a⟩

/-- The command of a voice whose pitch the player has is legal. -/
theorem Voice.command_legal {d : Dialect} {c : Channel} {v : Voice} {command : Command}
    (tuned : v.Tuned) (h : v.command d c = .ok command) :
    ∃ view, IsCommand command.toBytes ∧ View.decode c.number command.toBytes = .ok view ∧
      Legal c command.toBytes view := by
  simp only [Voice.command, bind_eq_ok_iff] at h
  obtain ⟨lead, hl, action, ha, ⟨⟩⟩ := h
  have decoded : View.decode c.number (Command.assemble lead (v.instrumentField c) action
      (v.volume.map c.quantize)).toBytes = _ :=
    View.decode_assemble c (v.instrumentField_lt c) (v.level_lt c)
  refine ⟨_, isCommand_assemble decoded, decoded, ?_⟩
  constructor
  · intro note hnote
    rw [View.ofFields_note] at hnote
    split at hnote
    · cases hnote
    · rename_i pitched
      have legal := Voice.leadByte_legal tuned (hnote ▸ hl)
      rw [if_neg pitched] at legal
      exact ⟨pitched, legal⟩
  · intro kit hkit
    rw [View.ofFields_kit] at hkit
    split at hkit
    · rename_i noise
      have legal := Voice.leadByte_legal tuned (hkit ▸ hl)
      rw [if_pos noise] at legal
      exact ⟨noise, legal⟩
    · cases hkit
  · intro instrument hinstrument
    obtain ⟨pitched, last⟩ := Voice.instrumentField_legal hinstrument
    refine ⟨pitched, ?_⟩
    cases c <;> exact last
  · intro volume hvolume
    obtain ⟨level, -, rfl⟩ := Option.map_eq_some_iff.1 hvolume
    have highest := c.quantize_le level
    cases c <;> exact highest
  · intro silent
    rw [View.ofFields] at silent ⊢
    rw [show v.volume.map c.quantize = none from silent]
    exact headerFor_silent _ _ _
  · intro given hgiven
    rw [show action = some given from hgiven] at ha
    exact Voice.action_legal ha
  · exact unusedNibblesZero_assemble

theorem legalRow_of_encodeVoices {d : Dialect} {pattern row : Nat}
    {voice : Channel → Except Fault Voice} {bytes : List UInt8}
    (tuned : ∀ c v, voice c = .ok v → v.Tuned)
    (h : (encodeVoices d pattern row voice).outcome = .ok bytes) : LegalRow bytes := by
  obtain ⟨commands, encoded, rfl⟩ := encodeVoices_eq_ok_iff.1 h
  have legal : ∀ c, ∃ view, IsCommand (commands.get c).toBytes ∧
      View.decode c.number (commands.get c).toBytes = .ok view ∧
        Legal c (commands.get c).toBytes view := by
    intro c
    obtain ⟨v, hv, hc⟩ := bind_eq_ok_iff.1 (encoded c)
    exact Voice.command_legal (tuned c v hv) hc
  choose view command decoded legal using legal
  have splits := splits_encodeRow command
  have shown : ∀ c, View.decode c.number
      ((PerChannel.ofFn fun c => (commands.get c).toBytes).get c) =
        .ok ((PerChannel.ofFn view).get c) := by
    intro c
    rw [PerChannel.get_ofFn, PerChannel.get_ofFn]
    exact decoded c
  refine ⟨_, _, splits, decodeRow_eq_ok_iff.2 ⟨_, splits, shown⟩, fun c => ⟨shown c, ?_⟩⟩
  rw [PerChannel.get_ofFn, PerChannel.get_ofFn]
  exact legal c

theorem ScreamTracker.Cell.voice_tuned {cell : ScreamTracker.Cell} {lead : Lead}
    {defaultVolume : UInt8 → Option UInt8} {v : Voice}
    (h : cell.voice lead defaultVolume = .ok v) : v.Tuned := by
  unfold ScreamTracker.Cell.voice at h
  split at h
  · cases h
    intro index hindex
    cases hindex
  · obtain ⟨note, hnote, rfl⟩ := map_eq_ok_iff.1 h
    intro index hindex
    rw [show note = some (.index index) from hindex] at hnote
    unfold ScreamTracker.noteOf at hnote
    split at hnote
    · cases hnote
    split at hnote
    · cases hnote
    rename_i sounding
    split at hnote
    · obtain ⟨_, found, same⟩ := map_eq_ok_iff.1 hnote
      cases same
      exact Sound.noteIndex_isNote sounding found
    · cases hnote

theorem Protracker.Cell.voice_tuned {cell : Protracker.Cell} {lead : Lead} {v : Voice}
    (h : cell.voice lead = .ok v) : v.Tuned := by
  obtain ⟨note, hnote, rfl⟩ := map_eq_ok_iff.1 h
  intro index hindex
  cases lead with
  | note =>
      obtain ⟨_, found, same⟩ := Option.map_eq_some_iff.1 hindex
      cases same
      rw [found] at hnote
      exact Protracker.noteOfPeriod_isNote hnote
  | kit => cases hindex

theorem ScreamTracker.Tune.legalRow_of_compile {tune : ScreamTracker.Tune} {o : Options}
    {name : String} {song : Song} (h : (tune.compile o name).outcome = .ok song) :
    ∀ p ∈ song.patterns, ∀ row ∈ p.rows, LegalRow row := by
  obtain ⟨-, -, compiled, -⟩ := compile_eq_ok_iff.1 h
  intro p member row inside
  have hp := compiled_of_mem_of_forall₂ compiled index_of_compilePattern member
  obtain ⟨source, -, -, -, encoded⟩ := (tune.compilePattern_eq_ok_iff o).1 hp
  obtain ⟨r, hr, rfl⟩ := List.getElem_of_mem inside
  exact legalRow_of_encodeVoices (fun _ _ => ScreamTracker.Cell.voice_tuned) (encoded r hr)

theorem Protracker.Tune.legalRow_of_compile {tune : Protracker.Tune} {o : Options}
    {name : String} {song : Song} (h : (tune.compile o name).outcome = .ok song) :
    ∀ p ∈ song.patterns, ∀ row ∈ p.rows, LegalRow row := by
  obtain ⟨-, -, compiled, -⟩ := compile_eq_ok_iff.1 h
  intro p member row inside
  have hp := compiled_of_mem_of_forall₂ compiled index_of_compilePattern member
  obtain ⟨-, -, encoded⟩ := (tune.compilePattern_eq_ok_iff o).1 hp
  obtain ⟨r, hr, rfl⟩ := List.getElem_of_mem inside
  obtain ⟨-, encoded⟩ := (tune.compileRow_eq_ok_iff o).1 (encoded r hr)
  exact legalRow_of_encodeVoices (fun _ _ => Protracker.Cell.voice_tuned) encoded

/-- Every row of a compiled song is legal. -/
theorem compile_emits_legal_rows {o : Options} {format : Format} {image : Image} {name : String}
    {song : Song} (h : (compile o format image name).outcome = .ok song) :
    ∀ p ∈ song.patterns, ∀ row ∈ p.rows, LegalRow row := by
  cases format with
  | screamTracker =>
      obtain ⟨tune, -, compiled⟩ := ScreamTracker.compile_eq_ok_iff_tune.1 h
      exact tune.legalRow_of_compile compiled
  | protracker =>
      obtain ⟨tune, -, compiled⟩ := Protracker.compile_eq_ok_iff_tune.1 h
      exact tune.legalRow_of_compile compiled

/-- One row: a note with a panning effect, a cut with a volume slide, an instrument
and a volume that are too large for their channels, and a kit with a speed. -/
def fullRow : Image := ScreamTracker.onePatternImage [0xE0, 0x40, 5, 40, 0x13, 0x83,
  0xA1, 0xFE, 2, 4, 0x30, 0x62, 0x52, 9, 64, 0xE3, 0x40, 0x1F, 70, 1, 6, 0]

theorem compile_fullRow_legal :
    ∃ song, (compile {} .screamTracker fullRow "short").outcome = .ok song ∧
      song.patterns = [⟨0, [[0xFA, 24, 0x10, 0x10, 0xE0, 0xFE, 0x24, 0x0D,
        0xB1, 38, 0x10, 0xDF, 15, 0x0A, 6]]⟩] ∧
      ∀ p ∈ song.patterns, ∀ row ∈ p.rows, LegalRow row := by
  have compiled : (compile {} .screamTracker fullRow "short").outcome = .ok
      { name := "short"
        patterns := [⟨0, [[0xFA, 24, 0x10, 0x10, 0xE0, 0xFE, 0x24, 0x0D,
          0xB1, 38, 0x10, 0xDF, 15, 0x0A, 6]]⟩]
        startup := some [1, 6, 2, 0x11, 0x22, 0x44, 0x88, 0]
        orders := [0] } := by decide +kernel
  exact ⟨_, compiled, rfl, compile_emits_legal_rows compiled⟩

end Chiptune

import Chiptune.Proofs.Protracker.Period
import Chiptune.Proofs.Protracker.Translation
import Chiptune.Proofs.Warnings

/-!
# What becomes of the effect column

Nothing that stands in the effect column of a Protracker song gets lost without
a word: "set volume" becomes the volume of its command, an effect that the player
has becomes the effect of its command, and every other one is told in a warning.
The warnings come in the order in which the cells are visited, and those of a
song that cannot be compiled end at the cell or row where the compilation ends.
-/

namespace Chiptune

open Bytecode Text

namespace Protracker

namespace Quad

/-- The effect column of a cell is not empty. -/
def HasEffect (q : Quad) : Prop := ¬ (q.command = 0 ∧ q.param = 0)

instance (q : Quad) : Decidable q.HasEffect := by
  unfold HasEffect
  infer_instance

def unsupportedText (q : Quad) : String :=
  "Unsupported effect: " ++ Hexadecimal.numeral q.command.toNat ++ Hexadecimal.byte q.param

def tempoText (q : Quad) : String := "Unsupported BPM speed effect: F" ++ Hexadecimal.byte q.param

/-- The warning that tells of an effect which is neither a volume nor one that
the player has. -/
def warning? (q : Quad) : Option String :=
  match q.command.toNat with
  | 0x0 | 0xB | 0xC | 0xD => none
  | 0xE => if q.param >>> 4 = 0x8 ∨ q.param >>> 4 = 0xC then none else some q.unsupportedText
  | 0xF => if 0x1F < q.param then some q.tempoText else none
  | _ => some q.unsupportedText

example : warning? ⟨0x01, 0xAC, 0x14, 0x7E⟩ = some "Unsupported effect: 47E" := by decide

/-- Why a cell cannot be played. -/
def fault? (q : Quad) : Option Fault :=
  if 0 < q.period ∧ q.period < 28 then some .noteTooHigh
  else if 1712 < q.period then some .noteTooLow
  else if q.command = 0xF ∧ q.param = 0 then some .zeroSpeed
  else none

/-- The view of a command shows what has become of the effect column of its cell:
it shows a volume, or it shows an effect, or there is a warning, and only one of
these. -/
structure AccountedFor (o : Options) (c : Channel) (q : Quad) (v : View) : Prop where
  volume : v.volume = if q.command = 0xC then some (c.quantize q.param) else none
  action : ∀ action, v.action = some action ↔ q.HasEffect ∧
    (Tune.dialect o).protrackerAction c ⟨q.command, q.param⟩ = .ok (.ok action)
  once : v.volume.isSome.toNat + v.action.isSome.toNat + q.warning?.isSome.toNat =
    if q.HasEffect then 1 else 0

end Quad

def quadAt (image : Image) (place : Place) : Quad :=
  .ofImage image place.pattern place.row place.channel

/-- The row of a place lies inside the image. -/
def Stored (image : Image) (place : Place) : Prop :=
  1084 + 1024 * place.pattern + 16 * place.row + 16 ≤ image.size

/-- A compilation ends at a place: at a cell that cannot be played, or where a row
starts that the image does not hold. -/
inductive EndsAt (image : Image) (place : Place) : Failure → Prop
  | cell {fault : Fault} : Stored image place → (quadAt image place).fault? = some fault →
      EndsAt image place (.cell place fault)
  | row (cause : Malformed) : ¬ Stored image place → place.channel = .pulse1 →
      EndsAt image place (.malformed cause)

/-- The cells of an image: a cell is passed if it is stored and can be played. -/
def road (image : Image) : Road Place Failure where
  Passes place := Stored image place ∧ (quadAt image place).fault? = none
  Stops := EndsAt image
  warning? place := (quadAt image place).warning?

def rowPlaces (pattern row : Nat) : List Place := Channel.all.map fun c => ⟨pattern, row, c⟩

def patternPlaces (pattern : Nat) : List Place :=
  (List.range 64).flatMap (rowPlaces pattern)

/-- The cells of all patterns that are played, in ascending order of the patterns,
row by row, and each row channel by channel. -/
def places (image : Image) : List Place :=
  ((List.range 256).filter fun p => ∃ k < songLength image, orderAt image k = p).flatMap
    patternPlaces

theorem mem_places_iff {image : Image} {place : Place} : place ∈ places image ↔
    (∃ k < songLength image, orderAt image k = place.pattern) ∧ place.row < 64 := by
  obtain ⟨p, row, c⟩ := place
  simp only [places, patternPlaces, rowPlaces, List.mem_flatMap, List.mem_filter, List.mem_range,
    List.mem_map, decide_eq_true_eq, Place.mk.injEq]
  constructor
  · intro h
    obtain ⟨_, ⟨-, played⟩, _, inside, _, -, rfl, rfl, -⟩ := h
    exact ⟨played, inside⟩
  · intro h
    obtain ⟨played, inside⟩ := h
    obtain ⟨k, -, rfl⟩ := id played
    exact ⟨_, ⟨(image.byteAt (952 + k)).toNat_lt, played⟩, row, inside, c, c.mem_all, rfl, rfl, rfl⟩

namespace Quad

variable {q : Quad} {o : Options} {c : Channel}

theorem noteOfPeriod_eq_error {fault : Fault}
    (h : 0 < q.period ∧ q.period < 28 ∧ fault = .noteTooHigh ∨
      1712 < q.period ∧ fault = .noteTooLow) : noteOfPeriod q.period = .error fault := by
  rcases h with ⟨present, high, rfl⟩ | ⟨low, rfl⟩
  · exact noteOfPeriod_eq_tooHigh_iff.2 ⟨present, Nat.le_of_lt_succ high⟩
  · exact noteOfPeriod_eq_tooLow_iff.2 low

/-- An effect other than "set volume" sets the speed to zero, or the player has it,
or it is dropped with the warning of its cell. -/
theorem protrackerAction_cases (d : Dialect) (c : Channel) (q : Quad) (other : q.command ≠ 0xC) :
    (q.command = 0xF ∧ q.param = 0) ∧
        d.protrackerAction c ⟨q.command, q.param⟩ = .error .zeroSpeed ∨
      (∃ action, d.protrackerAction c ⟨q.command, q.param⟩ = .ok (.ok action) ∧
        q.warning? = none) ∨
      ∃ event, d.protrackerAction c ⟨q.command, q.param⟩ = .ok (.error event) ∧
        event.level = .warn ∧ q.warning? = some event.message := by
  have other : q.command.toNat ≠ 0xC := fun h => other (UInt8.toNat_inj.1 h)
  unfold Dialect.protrackerAction warning?
  dsimp only
  split
  case h_4 extended =>
    rw [extended]
    by_cases pan : q.param >>> 4 = 0x8
    · exact .inr (.inl ⟨_, if_pos pan, if_pos (.inl pan)⟩)
    by_cases cut : q.param >>> 4 = 0xC
    · exact .inr (.inl ⟨_, (if_neg pan).trans (if_pos cut), if_pos (.inr cut)⟩)
    · exact .inr (.inr ⟨_, (if_neg pan).trans (if_neg cut), rfl, if_neg (not_or.2 ⟨pan, cut⟩)⟩)
  case h_5 speed =>
    rw [speed]
    by_cases zero : q.param = 0
    · exact .inl ⟨⟨UInt8.toNat_inj.1 speed, zero⟩, if_pos zero⟩
    by_cases tempo : 0x1F < q.param
    · exact .inr (.inr ⟨_, (if_neg zero).trans (if_pos tempo), rfl, if_pos tempo⟩)
    · exact .inr (.inl ⟨_, (if_neg zero).trans (if_neg tempo), if_neg tempo⟩)
  case h_6 =>
    refine .inr (.inr ⟨_, rfl, rfl, ?_⟩)
    split
    all_goals first | contradiction | rfl
  all_goals
    rename_i known
    rw [known]
    exact .inr (.inl ⟨_, rfl, rfl⟩)

/-- An empty column and a volume need no warning. -/
theorem warning?_eq_none (h : q.command = 0xC ∨ q.command = 0 ∧ q.param = 0) :
    q.warning? = none := by
  unfold warning?
  rcases h with volume | ⟨empty, -⟩
  · rw [volume]
    rfl
  · rw [empty]
    rfl

theorem fault?_eq_some {fault : Fault} (h : q.fault? = some fault) :
    noteOfPeriod q.period = .error fault ∨
      (∃ note, noteOfPeriod q.period = .ok note) ∧ (q.command = 0xF ∧ q.param = 0) ∧
        fault = .zeroSpeed := by
  unfold fault? at h
  split at h
  · rename_i high
    cases h
    exact .inl (noteOfPeriod_eq_error (.inl ⟨high.1, high.2, rfl⟩))
  split at h
  · rename_i low
    cases h
    exact .inl (noteOfPeriod_eq_error (.inr ⟨low, rfl⟩))
  split at h
  · rename_i zero
    cases h
    exact .inr ⟨exists_noteOfPeriod_iff.2 (by omega), zero, rfl⟩
  · cases h

theorem fault?_eq_none_iff : q.fault? = none ↔ q.Playable := by
  unfold fault? Playable
  by_cases high : 0 < q.period ∧ q.period < 28
  · rw [if_pos high]
    simp only [reduceCtorEq, false_iff, not_and_or]
    exact .inl (by omega)
  rw [if_neg high]
  by_cases low : 1712 < q.period
  · rw [if_pos low]
    simp only [reduceCtorEq, false_iff, not_and_or]
    exact .inl (by omega)
  rw [if_neg low]
  by_cases zero : q.command = 0xF ∧ q.param = 0
  · rw [if_pos zero]
    simp only [reduceCtorEq, false_iff]
    exact fun playable => playable.2 zero
  · rw [if_neg zero]
    exact iff_of_true rfl ⟨by omega, zero⟩

theorem voice_eq_error {fault : Fault} (h : noteOfPeriod q.period = .error fault) (lead : Lead) :
    q.cell.voice lead = .error fault := by
  rw [Cell.voice, cell_period, h]
  rfl

theorem action_voice_eq (present : ¬ (q.command = 0xC ∨ q.command = 0 ∧ q.param = 0))
    (lead : Lead) (note : Option UInt8) : (q.voice lead note).action (Tune.dialect o) c =
      match (Tune.dialect o).protrackerAction c ⟨q.command, q.param⟩ with
      | .error fault => .ofExcept (.error fault)
      | .ok (.ok action) => pure (some action)
      | .ok (.error warning) => ⟨[warning], .ok none⟩ := by
  unfold Voice.action voice
  simp only [if_neg present]
  rfl

theorem action_voice_zeroSpeed (zero : q.command = 0xF ∧ q.param = 0) (lead : Lead)
    (note : Option UInt8) : (q.voice lead note).action (Tune.dialect o) c =
      .ofExcept (.error .zeroSpeed) := by
  rw [action_voice_eq (by rw [zero.1]; simp), protrackerAction_eq_error_iff.2 ⟨zero, rfl⟩]

/-- The meaning of an effect is found with the warning of its cell. -/
theorem warnings_action_voice (played : ¬ (q.command = 0xF ∧ q.param = 0)) (lead : Lead)
    (note : Option UInt8) :
    ((q.voice lead note).action (Tune.dialect o) c).warnings = q.warning?.toList := by
  by_cases absent : q.command = 0xC ∨ q.command = 0 ∧ q.param = 0
  · rw [warning?_eq_none absent]
    unfold Voice.action voice
    simp only [if_pos absent]
    rfl
  · rw [action_voice_eq absent]
    rcases protrackerAction_cases (Tune.dialect o) c q (fun volume => absent (.inl volume)) with
      ⟨zero, -⟩ | ⟨action, known, quiet⟩ | ⟨event, dropped, level, told⟩
    · exact absurd zero played
    · rw [known, quiet]
      rfl
    · rw [dropped, told]
      simp [Journal.warnings, level]

end Quad

theorem warnings_encode {d : Dialect} {c : Channel} {v : Voice} {lead : Option UInt8}
    (h : v.leadByte c = .ok lead) : (v.encode d c).warnings = (v.action d c).warnings := by
  have found : (Journal.ofExcept (v.leadByte c)).outcome = .ok lead := h
  rw [Voice.encode, Journal.warnings_bind_of_ok found, Journal.warnings_ofExcept, List.nil_append]
  cases action : (v.action d c).outcome with
  | error fault => rw [Journal.warnings_bind_of_error action]
  | ok action' =>
      rw [Journal.warnings_bind_of_ok action, Journal.warnings_pure, List.append_nil]

theorem warnings_encodeVoice_ok (d : Dialect) (place : Place) (v : Voice) :
    (encodeVoice d place (.ok v)).warnings = (v.encode d place.channel).warnings := by
  rw [encodeVoice, Journal.warnings_mapError,
    Journal.warnings_bind_of_ok (Journal.ofExcept_outcome _)]
  rfl

variable {image : Image} {o : Options}

/-- A cell that the image holds is passed or ends the compilation. -/
theorem follows_encodeVoice {place : Place} (stored : Stored image place) :
    (encodeVoice (Tune.dialect o) place
      ((quadAt image place).cell.voice place.channel.lead)).Follows (road image) [place] := by
  generalize hq : quadAt image place = q
  have outcome := encodeVoice_outcome (Tune.dialect o) place (q.cell.voice place.channel.lead)
  cases fault : q.fault? with
  | none =>
      have playable := Quad.fault?_eq_none_iff.1 fault
      obtain ⟨command, encoded⟩ := (Quad.exists_channelCommand_iff (o := o)).2 playable
      obtain ⟨note, known⟩ := exists_noteOfPeriod_iff.2 playable.1
      rw [encoded] at outcome
      refine .of_pass outcome ⟨stored, hq ▸ fault⟩ ?_
      rw [Quad.voice_eq_ok_iff.2 ⟨note, known, rfl⟩, warnings_encodeVoice_ok,
        warnings_encode (Quad.leadByte_voice q _ note),
        Quad.warnings_action_voice playable.2, ← hq]
      rfl
  | some fault' =>
      have stops : (road image).Stops place (.cell place fault') := .cell stored (hq ▸ fault)
      rcases Quad.fault?_eq_some fault with unknown | ⟨⟨note, known⟩, zero, rfl⟩
      · rw [Quad.voice_eq_error unknown] at outcome ⊢
        exact .of_stop outcome stops rfl
      · have lead := Quad.leadByte_voice q place.channel note
        have action := Quad.action_voice_zeroSpeed (o := o) (c := place.channel) zero
          place.channel.lead note
        rw [Quad.voice_eq_ok_iff.2 ⟨note, known, rfl⟩] at outcome ⊢
        refine .of_stop ?_ stops ?_
        · rw [outcome, channelCommand, ok_bind, Voice.command, lead, ok_bind, action]
          rfl
        · rw [warnings_encodeVoice_ok, warnings_encode lead, action]
          rfl

theorem follows_compileRow (tune : Tune) (o : Options) (index row : Nat) :
    (tune.compileRow o index row).Follows (road tune.image) (rowPlaces index row) := by
  unfold Tune.compileRow
  cases read : tune.row index row with
  | error cause =>
      have unstored : ¬ Stored tune.image ⟨index, row, .pulse1⟩ := by
        intro stored
        rw [Tune.row_eq_ok_iff.2 ⟨stored, rfl⟩] at read
        cases read
      exact .of_stop rfl (.row cause unstored rfl) rfl
  | ok cells =>
      obtain ⟨stored, rfl⟩ := Tune.row_eq_ok_iff.1 read
      have cell (c : Channel) : (encodeVoice (Tune.dialect o) ⟨index, row, c⟩
          (((PerChannel.ofFn (cellAt tune.image index row)).get c).voice c.lead)).Follows
            (road tune.image) [⟨index, row, c⟩] := by
        have here : Stored tune.image ⟨index, row, c⟩ := stored
        rw [PerChannel.get_ofFn, cellAt_eq]
        exact follows_encodeVoice here
      refine .quiet_bind rfl rfl ?_
      exact (cell .pulse1).bind fun _ _ => (cell .pulse2).bind fun _ _ =>
        (cell .wave).bind fun _ _ => (cell .noise).bind_pure _

theorem follows_compilePattern (tune : Tune) (o : Options) (index : Nat) :
    (tune.compilePattern o index).Follows (road tune.image) (patternPlaces index) :=
  (Journal.Follows.traverse fun row _ => follows_compileRow tune o index row).bind_pure _

theorem follows_compile (image : Image) (o : Options) (name : String) (valid : ValidHeader image) :
    ((headerOf image).compile o name).Follows (road image) (places image) := by
  have played : (headerOf image).played =
      (List.range 256).filter fun p => ∃ k < songLength image, orderAt image k = p := by
    refine List.filter_congr fun p _ => ?_
    rw [List.contains_eq_mem]
    exact decide_eq_decide.2 (Tune.mem_orders_headerOf valid)
  unfold Tune.compile places
  rw [played]
  refine .quiet_bind rfl rfl ?_
  refine (Journal.Follows.traverse fun p _ => ?_).bind_pure _
  exact follows_compilePattern (headerOf image) o p

/-- What is shown of a cell accounts for its effect column. -/
theorem accountedFor_of_plays {c : Channel} {q : Quad} {v : View} (plays : Plays o c q v)
    (played : ¬ (q.command = 0xF ∧ q.param = 0)) : q.AccountedFor o c v := by
  have shown := plays.action
  by_cases volume : q.command = 0xC
  · have present : q.HasEffect := by
      intro empty
      rw [volume] at empty
      exact absurd empty.1 (by decide)
    have dropped : (Tune.dialect o).protrackerAction c ⟨q.command, q.param⟩ =
        .ok (.error (.unsupportedEffect q.command q.param)) := by
      rw [volume]
      rfl
    rw [if_pos (.inl volume)] at shown
    refine ⟨plays.volume, ?_, ?_⟩
    · simp [shown, dropped]
    · rw [plays.volume, if_pos volume, shown, Quad.warning?_eq_none (.inl volume), if_pos present]
      rfl
  have silent : v.volume = none := plays.volume.trans (if_neg volume)
  by_cases present : q.HasEffect
  case neg =>
    have empty := not_not.1 present
    rw [if_pos (.inr empty)] at shown
    refine ⟨plays.volume, ?_, ?_⟩
    · simp [shown, present]
    · rw [silent, shown, Quad.warning?_eq_none (.inr empty), if_neg present]
      rfl
  rw [if_neg (not_or.2 ⟨volume, present⟩)] at shown
  obtain ⟨meaning, known, shown⟩ := shown
  rcases Quad.protrackerAction_cases (Tune.dialect o) c q volume with
    ⟨zero, -⟩ | ⟨action, translated, quiet⟩ | ⟨event, dropped, -, told⟩
  · exact absurd zero played
  · rw [translated] at known
    cases known
    refine ⟨plays.volume, ?_, ?_⟩
    · simp [shown, translated, present, Except.toOption]
    · rw [silent, shown, quiet, if_pos present]
      rfl
  · rw [dropped] at known
    cases known
    refine ⟨plays.volume, ?_, ?_⟩
    · simp [shown, dropped, Except.toOption]
    · rw [silent, shown, told, if_pos present]
      rfl

/-- Nothing in the effect column of a Protracker song gets lost without a word.
Along the cells of all patterns that are played, a compilation tells a warning for
each effect that is neither a volume nor one of the player, up to the cell or row
that it fails at, if there is one; and in a compiled song the effect column of
every cell is accounted for once. -/
theorem compile_accounts_for_effects (o : Options) (image : Image) (name : String) :
    (ValidHeader image →
      (compile o .protracker image name).Follows (road image) (places image)) ∧
    (¬ ValidHeader image →
      (∃ cause, (compile o .protracker image name).outcome = .error (.malformed cause)) ∧
        (compile o .protracker image name).warnings = []) ∧
    ∀ song, (compile o .protracker image name).outcome = .ok song →
      ∀ place ∈ places image, ∃ compiled row views,
        song.pattern? place.pattern = some compiled ∧ compiled.rows[place.row]? = some row ∧
          decodeRow row = .ok views ∧
          (quadAt image place).AccountedFor o place.channel (views.get place.channel) := by
  have along : ValidHeader image →
      (compile o .protracker image name).Follows (road image) (places image) := by
    intro valid
    have parsed : (Tune.parse image).mapError Failure.malformed = .ok (headerOf image) := by
      rw [Tune.parse_eq_ok_iff.2 ⟨valid, rfl⟩]
      rfl
    exact .quiet_bind parsed rfl (follows_compile image o name valid)
  refine ⟨along, ?_, ?_⟩
  · intro invalid
    have refused : ¬ ∃ tune, Tune.parse image = .ok tune := by
      rintro ⟨_, parsed⟩
      exact invalid (Tune.parse_eq_ok_iff.1 parsed).1
    obtain ⟨cause, failed⟩ := exists_error_iff.2 refused
    have failed' : (Tune.parse image).mapError Failure.malformed = .error (.malformed cause) := by
      rw [failed]
      rfl
    refine ⟨⟨cause, ?_⟩, Journal.warnings_bind_of_error failed' _⟩
    rw [compile_outcome_tune, failed', error_bind]
  · intro song compiled place visited
    obtain ⟨valid, compiled'⟩ := compile_outcome_eq_ok_iff.1 compiled
    obtain ⟨⟨k, ordered, played⟩, inside⟩ := mem_places_iff.1 visited
    have passed := ((along valid).completed song compiled).1 place visited
    obtain ⟨pattern, found, length, shown⟩ := (Tune.shows_cells_of_compile compiled').2
      place.pattern ((Tune.mem_orders_headerOf valid).2 ⟨k, ordered, played⟩)
    have inside : place.row < pattern.rows.length := length ▸ inside
    obtain ⟨views, decoded, plays⟩ := shown place.row inside
    refine ⟨pattern, _, views, found, List.getElem?_eq_getElem inside, decoded, ?_⟩
    exact accountedFor_of_plays (plays place.channel) (Quad.fault?_eq_none_iff.1 passed.2).2

/-- A song of which only the first row is stored. Its effects are one that the
player does not have, a volume, and a tempo. -/
def cutSong : Image := Array.mk <|
  List.replicate 950 0 ++ [1] ++ List.replicate 129 0 ++ songSignature ++
    [0, 0, 0x04, 0x7E, 0, 0, 0x0C, 0x20, 0, 0, 0x0F, 0x7D, 0, 0, 0, 0]

theorem compile_cutSong_accounts_for_effects :
    ∃ before place after, places cutSong = before ++ place :: after ∧ ¬ Stored cutSong place ∧
      (compile {} .protracker cutSong "cut").warnings =
        before.filterMap (fun earlier => (quadAt cutSong earlier).warning?) ∧
      (compile {} .protracker cutSong "cut").warnings =
        ["Unsupported effect: 47E", "Unsupported BPM speed effect: F7D"] := by
  have valid : ValidHeader cutSong := ⟨by decide +kernel, by decide +kernel, by decide +kernel⟩
  have ran : ((compile {} .protracker cutSong "cut").outcome,
      (compile {} .protracker cutSong "cut").warnings) =
      (.error (.malformed (.truncatedRead 4 1100)),
        ["Unsupported effect: 47E", "Unsupported BPM speed effect: F7D"]) := by decide +kernel
  obtain ⟨failed, told⟩ := Prod.mk.inj ran
  obtain ⟨before, place, after, visited, -, ends, earlier⟩ :=
    ((compile_accounts_for_effects {} cutSong "cut").1 valid).stopped _ failed
  cases ends with
  | row _ unstored _ => exact ⟨before, place, after, visited, unstored, earlier, told⟩

end Protracker

end Chiptune

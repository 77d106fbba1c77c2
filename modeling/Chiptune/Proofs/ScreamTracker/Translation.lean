import Chiptune.Proofs.Compilation

/-!
# What a compiled Scream Tracker song shows

In each row a channel is given a note column, a volume and an effect, each by
the last cell that carries it. This module says what the command of the channel
has to show for them, from the source fields alone, and proves that every row of
a compiled song reads back as exactly this.
-/

namespace Chiptune

open Bytecode

namespace ScreamTracker

/-- The note that a channel with a pitch shows for a note column. -/
inductive ShowsNote : Option NoteColumn → Option UInt8 → Prop where
  | nothing : ShowsNote none none
  | unnamed (instrument : UInt8) : ShowsNote (some ⟨0xFF, instrument⟩) none
  | cut (instrument : UInt8) : ShowsNote (some ⟨0xFE, instrument⟩) (some 0xFE)
  | pitch {note index : UInt8} (instrument : UInt8) (named : note ≠ 0xFF) (sounding : note ≠ 0xFE)
      (h : Sound.noteIndex note = .ok index) : ShowsNote (some ⟨note, instrument⟩) (some index)

/-- The kit that the noise channel shows for a note column. A cut together with
an instrument shows nothing at all: such a song is not compiled. -/
inductive ShowsKit : Option NoteColumn → Option UInt8 → Prop where
  | nothing : ShowsKit none none
  | cut : ShowsKit (some ⟨0xFE, 0⟩) (some 0xFE)
  | absent {note : UInt8} (sounding : note ≠ 0xFE) : ShowsKit (some ⟨note, 0⟩) none
  | chosen {note instrument : UInt8} (sounding : note ≠ 0xFE) (given : instrument ≠ 0) :
      ShowsKit (some ⟨note, instrument⟩) (some (instrument &&& 15))

/-- The instrument that a channel shows beside its effect. -/
def shownInstrument : Channel → UInt8 → Option UInt8
  | .noise, _ => none
  | .wave, instrument => if instrument = 0 then none else some (instrument &&& 7)
  | _, instrument => if instrument = 0 then none else some (instrument &&& 3)

/-- The channel is started by a note column: with a pitch, or on the noise
channel with an instrument that is not cut. -/
def Starts (c : Channel) (column : NoteColumn) : Prop :=
  if c = .noise then column.instrument ≠ 0 ∧ column.note ≠ 0xFE
  else column.note ≠ 0xFF ∧ column.note ≠ 0xFE

instance (c : Channel) (column : NoteColumn) : Decidable (Starts c column) := by
  unfold Starts; infer_instance

/-- The tracker volume at which a channel plays: the one given, or else, for a
note column that starts the channel, the default of its instrument. -/
def playedVolume (tune : Tune) (c : Channel) (volume : Option UInt8)
    (column : Option NoteColumn) : Option UInt8 :=
  volume.or (column.bind fun column =>
    if Starts c column then some ((tune.defaultVolume column.instrument).getD 64) else none)

/-- The view shows what a stretch of cells says about a channel. -/
structure Plays (tune : Tune) (o : Options) (c : Channel) (cells : List Cell) (v : View) :
    Prop where
  channel : v.channel = c.number
  header : v.header = Command.headerFor (v.kit.or v.note) v.instrument v.action v.volume
  note : if c = .noise then v.note = none else ShowsNote (lastField Cell.note c cells) v.note
  kit : if c = .noise then ShowsKit (lastField Cell.note c cells) v.kit else v.kit = none
  instrument : v.instrument = (lastField Cell.note c cells).bind fun column =>
    shownInstrument c column.instrument
  volume : v.volume = (playedVolume tune c (lastField Cell.volume c cells)
    (lastField Cell.note c cells)).map c.quantize
  action : match lastField Cell.effect c cells with
    | none => v.action = none
    | some e => (Tune.dialect o).screamTrackerAction c e = .ok v.action

/-- The note has a pitch. -/
def hasPitch : Option Note → Bool
  | some (.index _) => true
  | _ => false

theorem noteOf_note_shows {note : UInt8} (instrument : UInt8) {n : Option Note}
    (h : noteOf .note note = .ok n) :
    ShowsNote (some ⟨note, instrument⟩) (n.map Note.byte) ∧
      (hasPitch n = true ↔ note ≠ 0xFF ∧ note ≠ 0xFE) := by
  unfold noteOf at h
  split at h
  · rename_i unnamed
    cases h
    subst unnamed
    exact ⟨.unnamed instrument, by simp [noNote, hasPitch]⟩
  split at h
  · rename_i cut
    cases h
    subst cut
    exact ⟨.cut instrument, by simp [Sound.noteCut, hasPitch]⟩
  · rename_i named sounding
    obtain ⟨index, hi, rfl⟩ := map_eq_ok_iff.1 h
    exact ⟨.pitch instrument named sounding hi, by simpa [hasPitch] using ⟨named, sounding⟩⟩

theorem noteOf_kit {note : UInt8} {n : Option Note} (h : noteOf .kit note = .ok n) :
    n = if note = 0xFE then some .cut else none := by
  unfold noteOf at h
  split at h
  · rename_i unnamed
    cases h
    subst unnamed
    rfl
  split at h
  · rename_i cut
    cases h
    rw [if_pos (show note = 0xFE from cut)]
  · rename_i sounding
    cases h
    rw [if_neg (show ¬ note = 0xFE from sounding)]

section

variable {tune : Tune} {cell : Cell} {column : NoteColumn} {v : Voice}

theorem ownVolume_eq (tune : Tune) (instrument : UInt8) :
    (if instrument = 0 then Sound.fullVolume
      else (tune.defaultVolume instrument).getD Sound.fullVolume) =
        (tune.defaultVolume instrument).getD 64 := by
  split
  · rename_i h
    rw [h]
    rfl
  · rfl

theorem playedVolume_started {c : Channel} (h : Starts c column) (volume : Option UInt8) :
    playedVolume tune c volume (some column) =
      some (volume.getD ((tune.defaultVolume column.instrument).getD 64)) := by
  cases volume <;> simp [playedVolume, h]

theorem playedVolume_not_started {c : Channel} (h : ¬ Starts c column) (volume : Option UInt8) :
    playedVolume tune c volume (some column) = volume := by
  cases volume <;> simp [playedVolume, h]

theorem voice_pitched {c : Channel} (pitched : c ≠ .noise) (hn : cell.note = some column)
    (h : cell.voice .note tune.defaultVolume = .ok v) :
    ShowsNote cell.note (v.note.map Note.byte) ∧ v.instrument = column.instrument ∧
      v.effect = cell.effect ∧ v.volume = playedVolume tune c cell.volume cell.note := by
  rw [Cell.voice, hn] at h
  obtain ⟨note, hnote, rfl⟩ := map_eq_ok_iff.1 h
  obtain ⟨shows, sounds⟩ := noteOf_note_shows column.instrument hnote
  have starts : hasPitch note = true ↔ Starts c column := by
    rw [sounds, Starts, if_neg pitched]
  rw [hn]
  refine ⟨shows, rfl, rfl, ?_⟩
  by_cases started : Starts c column
  · rw [playedVolume_started started, ← ownVolume_eq]
    exact if_pos (starts.2 started)
  · rw [playedVolume_not_started started]
    exact if_neg (mt starts.1 started)

theorem voice_noise (hn : cell.note = some column)
    (h : cell.voice .kit tune.defaultVolume = .ok v) :
    v.note = (if column.note = 0xFE then some .cut else none) ∧
      v.instrument = column.instrument ∧ v.effect = cell.effect ∧
      v.volume = playedVolume tune .noise cell.volume cell.note := by
  rw [Cell.voice, hn] at h
  obtain ⟨note, hnote, rfl⟩ := map_eq_ok_iff.1 h
  rw [hn]
  refine ⟨noteOf_kit hnote, rfl, rfl, ?_⟩
  by_cases started : Starts .noise column
  · rw [playedVolume_started started, ← ownVolume_eq]
    exact if_pos (by simpa [Starts, Sound.noteCut] using started)
  · rw [playedVolume_not_started started]
    exact if_neg (by simpa [Starts, Sound.noteCut] using started)

theorem kit_shows {kit : Option UInt8}
    (hv : v.note = if column.note = 0xFE then some .cut else none)
    (hi : v.instrument = column.instrument) (h : v.kit 15 = .ok kit) :
    ShowsKit (some column) kit := by
  obtain ⟨note, instrument⟩ := column
  rw [Voice.kit, hv, hi] at h
  by_cases cut : note = 0xFE
  · subst cut
    by_cases absent : instrument = 0
    · subst absent
      cases h
      exact .cut
    · simp [absent] at h
  · by_cases absent : instrument = 0
    · subst absent
      simp only [if_neg cut] at h
      cases h
      exact .absent cut
    · simp only [if_neg cut, if_neg absent] at h
      cases h
      exact .chosen cut absent

end

section

variable {tune : Tune} {o : Options} {c : Channel} {cells : List Cell} {v : Voice}
  {lead : Option UInt8} {action : Option Action}

theorem action_outcome_eq_ok_iff :
    (v.action (Tune.dialect o) c).outcome = .ok action ↔ match v.effect with
      | none => action = none
      | some e => (Tune.dialect o).screamTrackerAction c e = .ok action := by
  unfold Voice.action
  cases v.effect with
  | none => exact ⟨fun h => (Except.ok.inj h).symm, fun h => h ▸ rfl⟩
  | some e => exact Iff.rfl

theorem instrumentField_eq (c : Channel) (v : Voice) :
    v.instrumentField c = shownInstrument c v.instrument := by
  cases c <;> rfl

/-- A channel with a pitch shows the fields of its cell. -/
theorem plays_of_pitched (pitched : c ≠ .noise)
    (hv : (said c cells).voice .note tune.defaultVolume = .ok v)
    (ha : (v.action (Tune.dialect o) c).outcome = .ok action) :
    Plays tune o c cells (.ofFields c (v.note.map Note.byte) (v.instrumentField c) action
      (v.volume.map c.quantize)) := by
  have fields : ShowsNote (said c cells).note (v.note.map Note.byte) ∧
      v.instrumentField c = ((said c cells).note.bind fun column =>
        shownInstrument c column.instrument) ∧ v.effect = (said c cells).effect ∧
      v.volume = playedVolume tune c (said c cells).volume (said c cells).note := by
    cases hn : (said c cells).note with
    | none =>
        rw [Cell.voice, hn] at hv
        cases hv
        refine ⟨.nothing, ?_, rfl, ?_⟩
        · rw [instrumentField_eq]
          cases c <;> rfl
        · cases (said c cells).volume <;> rfl
    | some column =>
        obtain ⟨shows, instrument, effect, volume⟩ := voice_pitched pitched hn hv
        rw [← hn]
        refine ⟨shows, ?_, effect, volume⟩
        rw [hn, instrumentField_eq, instrument]
        rfl
  obtain ⟨shows, instrument, effect, volume⟩ := fields
  rw [action_outcome_eq_ok_iff, effect] at ha
  constructor
  · rfl
  · exact View.ofFields_header _ _ _ _ _
  · rw [if_neg pitched, View.ofFields_note, if_neg pitched]
    exact shows
  · rw [if_neg pitched, View.ofFields_kit, if_neg pitched]
  · exact instrument
  · rw [View.ofFields, volume]
    rfl
  · exact ha

/-- The noise channel shows the fields of its cell. -/
theorem plays_of_noise (hv : (said .noise cells).voice .kit tune.defaultVolume = .ok v)
    (hl : v.kit 15 = .ok lead)
    (ha : (v.action (Tune.dialect o) .noise).outcome = .ok action) :
    Plays tune o .noise cells (.ofFields .noise lead (v.instrumentField .noise) action
      (v.volume.map Channel.noise.quantize)) := by
  have fields : ShowsKit (said .noise cells).note lead ∧ v.effect = (said .noise cells).effect ∧
      v.volume = playedVolume tune .noise (said .noise cells).volume (said .noise cells).note := by
    cases hn : (said .noise cells).note with
    | none =>
        rw [Cell.voice, hn] at hv
        cases hv
        cases hl
        refine ⟨.nothing, rfl, ?_⟩
        cases (said .noise cells).volume <;> rfl
    | some column =>
        obtain ⟨note, instrument, effect, volume⟩ := voice_noise hn hv
        rw [← hn]
        refine ⟨?_, effect, volume⟩
        rw [hn]
        exact kit_shows note instrument hl
  obtain ⟨shows, effect, volume⟩ := fields
  rw [action_outcome_eq_ok_iff, effect] at ha
  constructor
  · rfl
  · exact View.ofFields_header _ _ _ _ _
  · rfl
  · exact shows
  · rw [View.ofFields, instrumentField_eq]
    cases lastField Cell.note .noise cells <;> rfl
  · rw [View.ofFields, volume]
    rfl
  · exact ha

theorem plays_of_voice (hv : (said c cells).voice c.lead tune.defaultVolume = .ok v)
    (hl : v.leadByte c = .ok lead) (ha : (v.action (Tune.dialect o) c).outcome = .ok action) :
    Plays tune o c cells
      (.ofFields c lead (v.instrumentField c) action (v.volume.map c.quantize)) := by
  by_cases noise : c = .noise
  · subst noise
    exact plays_of_noise hv hl ha
  · rw [Voice.leadByte_pitched noise] at hl
    rw [Channel.lead_of_ne_noise noise] at hv
    cases hl
    exact plays_of_pitched noise hv ha

end

/-- Every played pattern of a compiled song has a row for each row end of its
source, and each row reads back as what its stretch of cells says about the four
channels. -/
theorem compile_shows_cells {o : Options} {image : Image} {name : String} {song : Song}
    (h : (compile o .screamTracker image name).outcome = .ok song) :
    ∃ tune, Tune.parse image = .ok tune ∧
      ∀ p ∈ tune.orders.map UInt8.toNat, p < tune.patternCount →
        ∃ source compiled, tune.pattern p = .ok source ∧ song.pattern? p = some compiled ∧
          compiled.rows.length = source.rowCount ∧
          ∀ (row : Nat) (hr : row < compiled.rows.length),
            ∃ views, decodeRow compiled.rows[row] = .ok views ∧
              ∀ c, Plays tune o c (source.rowCells row) (views.get c) := by
  rw [compile, Journal.bind_outcome, bind_eq_ok_iff] at h
  obtain ⟨tune, parsed, h⟩ := h
  rw [Journal.ofExcept_outcome, mapError_eq_ok_iff] at parsed
  rw [Tune.compile_outcome, bind_eq_ok_iff] at h
  obtain ⟨patterns, compiled, h⟩ := h
  obtain ⟨startup, -, h⟩ := bind_eq_ok_iff.1 h
  cases h
  refine ⟨tune, parsed, ?_⟩
  intro p ordered bounded
  have played : p ∈ tune.played :=
    tune.mem_played.2 (tune.mem_validOrders.2 ⟨ordered, bounded⟩)
  have keepsIndex : ∀ p q, (tune.compilePattern o p).outcome = .ok q → q.index = p := by
    intro p q hq
    obtain ⟨_, _, index, _⟩ := (tune.compilePattern_eq_ok_iff o).1 hq
    exact index
  obtain ⟨pattern, found, hp⟩ :=
    exists_find?_of_forall₂ (mapM_eq_ok_iff.1 compiled) keepsIndex played
  obtain ⟨source, read, -, length, encoded⟩ := (tune.compilePattern_eq_ok_iff o).1 hp
  refine ⟨source, pattern, read, found, length, ?_⟩
  intro row hr
  obtain ⟨views, decoded, shown⟩ := decodeRow_of_encodeVoices (encoded row hr)
  refine ⟨views, decoded, ?_⟩
  intro c
  obtain ⟨v, lead, action, hv, hl, ha, view⟩ := shown c
  rw [view]
  exact plays_of_voice hv hl ha

/-- Two rows: a note with a volume and a kit in the first of them, nothing in the
second. -/
def twoRows : Image := onePatternImage [0x61, 0x40, 1, 12, 0x23, 0xFF, 5, 0, 0]

theorem compile_twoRows_shows_cells :
    ∃ song tune, (compile {} .screamTracker twoRows "short").outcome = .ok song ∧
      Tune.parse twoRows = .ok tune ∧
      ∀ p ∈ tune.orders.map UInt8.toNat, p < tune.patternCount →
        ∃ source compiled, tune.pattern p = .ok source ∧ song.pattern? p = some compiled ∧
          compiled.rows.length = source.rowCount ∧
          ∀ (row : Nat) (hr : row < compiled.rows.length),
            ∃ views, decodeRow compiled.rows[row] = .ok views ∧
              ∀ c, Plays tune {} c (source.rowCells row) (views.get c) := by
  have compiled : (compile {} .screamTracker twoRows "short").outcome = .ok
      { name := "short"
        patterns := [⟨0, [[0, 0xB3, 24, 0x10, 0, 0x9F, 5], [0, 0, 0, 0]]⟩]
        startup := some [1, 6, 2, 0x11, 0x22, 0x44, 0x88, 0]
        orders := [0] } := by decide +kernel
  obtain ⟨tune, parsed, shown⟩ := compile_shows_cells compiled
  exact ⟨_, tune, compiled, parsed, shown⟩

end ScreamTracker

end Chiptune

import Chiptune.Conversion
import Chiptune.Proofs.Protracker.Layout
import Chiptune.Proofs.RowEncoding
import Chiptune.Proofs.ScreamTracker.Row

/-!
# What a compilation consists of

Without its journal a compilation is a plain sequence of steps: the played
patterns in ascending order, each of them row by row, and for Scream Tracker
songs the start-up stream behind them. This module states the outcome of every
stage in these terms, for both formats.
-/

namespace Chiptune

/-- In a list of compiled patterns each one is found by its index. -/
theorem exists_find?_of_forall₂ {f : Nat → Except Failure Song.Pattern} {indices : List Nat}
    {patterns : List Song.Pattern}
    (compiled : List.Forall₂ (fun p q => f p = .ok q) indices patterns)
    (keepsIndex : ∀ p q, f p = .ok q → q.index = p) {p : Nat} (h : p ∈ indices) :
    ∃ q, patterns.find? (fun q => q.index = p) = some q ∧ f p = .ok q := by
  induction compiled with
  | nil => cases h
  | @cons p' q' indices patterns first rest ih =>
      by_cases same : p' = p
      · subst same
        exact ⟨q', by simp [keepsIndex _ _ first], first⟩
      · obtain ⟨q, found, hq⟩ := ih ((List.mem_cons.1 h).resolve_left (Ne.symm same))
        refine ⟨q, ?_, hq⟩
        rw [List.find?_cons_of_neg (by simpa [keepsIndex _ _ first] using same), found]

theorem map_index_of_forall₂ {f : Nat → Except Failure Song.Pattern} {indices : List Nat}
    {patterns : List Song.Pattern}
    (compiled : List.Forall₂ (fun p q => f p = .ok q) indices patterns)
    (keepsIndex : ∀ p q, f p = .ok q → q.index = p) : patterns.map (·.index) = indices := by
  induction compiled with
  | nil => rfl
  | cons first rest ih => rw [List.map_cons, keepsIndex _ _ first, ih]

/-- Every pattern of a list of compiled patterns comes from its own index. -/
theorem compiled_of_mem_of_forall₂ {f : Nat → Except Failure Song.Pattern} {indices : List Nat}
    {patterns : List Song.Pattern}
    (compiled : List.Forall₂ (fun p q => f p = .ok q) indices patterns)
    (keepsIndex : ∀ p q, f p = .ok q → q.index = p) {q : Song.Pattern} (h : q ∈ patterns) :
    f q.index = .ok q := by
  induction compiled with
  | nil => cases h
  | cons first rest ih =>
      rcases List.mem_cons.1 h with rfl | later
      · rw [keepsIndex _ _ first]
        exact first
      · exact ih later

namespace ScreamTracker

/-- What the cells of a row say about a channel, as one cell. -/
def said (c : Channel) (cells : List Cell) : Cell where
  channel := c
  note := lastField Cell.note c cells
  volume := lastField Cell.volume c cells
  effect := lastField Cell.effect c cells

theorem voice_congr {cell cell' : Cell} (hn : cell.note = cell'.note)
    (hv : cell.volume = cell'.volume) (he : cell.effect = cell'.effect) :
    cell.voice = cell'.voice := by
  funext lead defaultVolume
  rw [Cell.voice, Cell.voice, hn, hv, he]

theorem voice_foldl_merge (c : Channel) (cells : List Cell) :
    ((cells.foldl Row.merge Row.empty).cells.get c).voice = (said c cells).voice :=
  voice_congr (foldl_merge_field (fun _ _ => rfl) rfl c cells)
    (foldl_merge_field (fun _ _ => rfl) rfl c cells)
    (foldl_merge_field (fun _ _ => rfl) rfl c cells)

namespace Tune

variable (tune : Tune) (o : Options)

/-- The patterns that are played, each once and in ascending order. -/
def played : List Nat := (List.range tune.patternCount).filter fun p => p ∈ tune.validOrders

theorem mem_validOrders {p : Nat} :
    p ∈ tune.validOrders ↔ p ∈ tune.orders.map UInt8.toNat ∧ p < tune.patternCount := by
  simp [validOrders]

theorem mem_played {p : Nat} : p ∈ tune.played ↔ p ∈ tune.validOrders := by
  simp only [played, List.mem_filter, List.mem_range, decide_eq_true_eq, mem_validOrders]
  tauto

theorem played_ascending : tune.played.Pairwise (· < ·) :=
  List.Pairwise.filter _ List.pairwise_lt_range

/-- The voice that a channel is asked for in a row. -/
def voiceAt (source : Pattern) (row : Nat) (c : Channel) : Except Fault Voice :=
  (said c (source.rowCells row)).voice c.lead tune.defaultVolume

theorem voices_eq_voiceAt {source : Pattern} {row : Nat} (h : row < source.rows.length) :
    (fun c => (source.rows[row].cells.get c).voice c.lead tune.defaultVolume) =
      tune.voiceAt source row := by
  funext c
  rw [rows_getElem source h, voice_foldl_merge]
  rfl

theorem compilePattern_outcome (index : Nat) :
    (tune.compilePattern o index).outcome =
      (tune.pattern index).mapError Failure.malformed >>= fun source =>
        ((List.range source.rowCount).mapM fun row =>
            (encodeVoices (dialect o) index row (tune.voiceAt source row)).outcome) >>=
          fun rows => .ok ⟨index, rows⟩ := by
  have numbered (source : Pattern) : source.rows.zipIdx.mapM (fun entry =>
        (tune.compileRow o index entry.2 entry.1).outcome) =
      (List.range source.rowCount).mapM fun row =>
        (encodeVoices (dialect o) index row (tune.voiceAt source row)).outcome := by
    apply mapM_eq_mapM
    rw [List.forall₂_iff_get]
    refine ⟨by simp [length_rows], ?_⟩
    intro row inside inside'
    rw [List.length_zipIdx] at inside
    simp only [List.get_eq_getElem, List.getElem_zipIdx, List.getElem_range, Nat.zero_add,
      ← tune.voices_eq_voiceAt inside]
    rfl
  simp only [compilePattern, Journal.bind_outcome, Journal.ofExcept_outcome, Pattern.tellRows,
    Journal.noteIf_outcome, Journal.traverse_outcome, Journal.note_outcome, ok_bind]
  congr 1
  funext source
  rw [← numbered source]
  rfl

/-- A pattern is compiled exactly if it can be read and all its rows are encoded. -/
theorem compilePattern_eq_ok_iff {index : Nat} {compiled : Song.Pattern} :
    (tune.compilePattern o index).outcome = .ok compiled ↔ ∃ source,
      tune.pattern index = .ok source ∧ compiled.index = index ∧
      compiled.rows.length = source.rowCount ∧ ∀ (row : Nat) (h : row < compiled.rows.length),
        (encodeVoices (dialect o) index row (tune.voiceAt source row)).outcome =
          .ok compiled.rows[row] := by
  simp only [compilePattern_outcome, bind_eq_ok_iff, mapError_eq_ok_iff, mapM_range_eq_ok_iff]
  constructor
  · intro h
    obtain ⟨source, read, rows, encoded, ⟨⟩⟩ := h
    exact ⟨source, read, rfl, encoded⟩
  · intro h
    obtain ⟨source, read, rfl, encoded⟩ := h
    exact ⟨source, read, compiled.rows, encoded, rfl⟩

theorem exists_compilePattern_iff {index : Nat} :
    (∃ compiled, (tune.compilePattern o index).outcome = .ok compiled) ↔
      ∃ source, tune.pattern index = .ok source ∧ ∀ row < source.rowCount, ∀ c,
        ∃ command, channelCommand (dialect o) c (tune.voiceAt source row c) = .ok command := by
  rw [compilePattern_outcome]
  cases tune.pattern index with
  | error cause => simp [Except.mapError]
  | ok source =>
      simp only [Except.mapError, ok_bind, exists_bind_ok_eq_ok_iff, exists_mapM_eq_ok_iff,
        exists_encodeVoices_iff, List.mem_range, Except.ok.injEq, exists_eq_left']

theorem compileIfPlayed_outcome (played : List Nat) (index : Nat) :
    (tune.compileIfPlayed o played index).outcome =
      if index ∈ played then (tune.compilePattern o index).outcome.map some else .ok none := by
  unfold compileIfPlayed
  by_cases h : index ∈ played
  · rw [if_pos (List.contains_iff_mem.2 h), if_pos h, Journal.bind_outcome]
    cases (tune.compilePattern o index).outcome <;> rfl
  · rw [if_neg (by simpa using h), if_neg h]
    rfl

/-- Leaving out what is not played is the same as compiling what is played. -/
theorem mapM_compileIfPlayed (played items : List Nat) :
    (items.mapM fun index => (tune.compileIfPlayed o played index).outcome).map
        (List.filterMap id) =
      (items.filter fun index => index ∈ played).mapM fun index =>
        (tune.compilePattern o index).outcome := by
  induction items with
  | nil => rfl
  | cons index items ih =>
      rw [List.mapM_cons, compileIfPlayed_outcome]
      by_cases h : index ∈ played
      · rw [if_pos h, List.filter_cons_of_pos (by simpa using h), List.mapM_cons, ← ih]
        cases (tune.compilePattern o index).outcome with
        | error cause => rfl
        | ok compiled =>
            cases items.mapM fun index => (tune.compileIfPlayed o played index).outcome <;> rfl
      · rw [if_neg h, List.filter_cons_of_neg (by simpa using h), ← ih]
        cases items.mapM fun index => (tune.compileIfPlayed o played index).outcome <;> rfl

theorem waveSlot_outcome (number : UInt8) :
    (tune.waveSlot number).outcome = match tune.instrument number with
      | none => .ok none
      | some instrument =>
          ((waveItem tune.image number instrument).mapError Failure.malformed).map some := by
  unfold waveSlot
  cases tune.instrument number with
  | none => rfl
  | some instrument =>
      simp only [Journal.bind_outcome, Journal.note_outcome, Journal.ofExcept_outcome, ok_bind]
      cases waveItem tune.image number instrument <;> rfl

theorem startup_outcome :
    (tune.startup o).outcome =
      ((if o.exportInstruments then waveNumbers else []).mapM fun number =>
          (tune.waveSlot number).outcome) >>= fun waves =>
        .ok (StartupItem.encode ([.speed (Sound.playerSpeed tune.speed
          (o.convertsSpeed .screamTracker)), .panning tune.panning] ++ waves.filterMap id)) := by
  simp only [startup, Journal.bind_outcome, Journal.noteIf_outcome, ok_bind,
    Journal.traverse_outcome]
  rfl

theorem compile_outcome (name : String) :
    (tune.compile o name).outcome =
      (tune.played.mapM fun index => (tune.compilePattern o index).outcome) >>= fun patterns =>
        (tune.startup o).outcome >>= fun startup =>
          .ok ⟨name, patterns, some startup, tune.validOrders⟩ := by
  have listed : tune.played = (List.range tune.patternCount).filter fun index =>
      index ∈ tune.validOrders.eraseDups := by simp [played]
  simp only [compile, Journal.bind_outcome, Journal.noteAll_outcome, Journal.note_outcome,
    Journal.traverse_outcome, ok_bind, listed, ← mapM_compileIfPlayed]
  cases (List.range tune.patternCount).mapM fun index =>
    (tune.compileIfPlayed o tune.validOrders.eraseDups index).outcome <;> rfl

variable {tune o}

theorem index_of_compilePattern (p : Nat) (q : Song.Pattern)
    (h : (tune.compilePattern o p).outcome = .ok q) : q.index = p := by
  obtain ⟨_, _, index, _⟩ := (tune.compilePattern_eq_ok_iff o).1 h
  exact index

/-- The parts of a compiled song. -/
theorem compile_eq_ok_iff {name : String} {song : Song} :
    (tune.compile o name).outcome = .ok song ↔ song.name = name ∧
      song.orders = tune.validOrders ∧
      List.Forall₂ (fun p q => (tune.compilePattern o p).outcome = .ok q) tune.played
        song.patterns ∧
      ∃ startup, (tune.startup o).outcome = .ok startup ∧ song.startup = some startup := by
  simp only [compile_outcome, bind_eq_ok_iff, mapM_eq_ok_iff]
  constructor
  · intro h
    obtain ⟨patterns, compiled, startup, started, ⟨⟩⟩ := h
    exact ⟨rfl, rfl, compiled, startup, started, rfl⟩
  · intro h
    obtain ⟨name', patterns, startup', orders⟩ := song
    obtain ⟨rfl, rfl, compiled, startup, started, rfl⟩ := h
    exact ⟨patterns, compiled, startup, started, rfl⟩

end Tune

theorem compile_outcome_tune (o : Options) (image : Image) (name : String) :
    (compile o .screamTracker image name).outcome =
      (Tune.parse image).mapError Failure.malformed >>= fun tune =>
        (tune.compile o name).outcome := by
  simp only [compile, Journal.bind_outcome, Journal.ofExcept_outcome]

theorem compile_eq_ok_iff_tune {o : Options} {image : Image} {name : String} {song : Song} :
    (compile o .screamTracker image name).outcome = .ok song ↔
      ∃ tune, Tune.parse image = .ok tune ∧ (tune.compile o name).outcome = .ok song := by
  rw [compile_outcome_tune, bind_eq_ok_iff]
  simp only [mapError_eq_ok_iff]

/-- The image of a song with no instruments whose only pattern, on the seventh
paragraph, is packed as the given bytes. -/
def onePatternImage (body : List UInt8) : Image := Array.mk <|
  List.replicate 28 0 ++ [nameMarker, 0, 0, 0, 1, 0, 0, 0, 1, 0, 0, 0, 0, 0, 0, 0] ++
    songSignature ++ [0, 6, playerTempo] ++ List.replicate 45 0 ++ [0, 7, 0] ++
    List.replicate 13 0 ++ [UInt8.ofNat (body.length + 2), 0] ++ body

end ScreamTracker

namespace Protracker.Tune

variable (tune : Tune) (o : Options)

theorem mem_played {p : Nat} : p ∈ tune.played ↔ p ∈ tune.orders := by
  rw [played, List.mem_filter, List.mem_range, List.contains_iff_mem]
  constructor
  · intro h
    exact h.2
  · intro h
    obtain ⟨entry, -, rfl⟩ := List.mem_map.1 h
    exact ⟨entry.toNat_lt, h⟩

theorem played_ascending : tune.played.Pairwise (· < ·) :=
  List.Pairwise.filter _ List.pairwise_lt_range

/-- The voice that a channel is asked for in a row. -/
def voiceAt (index row : Nat) (c : Channel) : Except Fault Voice :=
  (cellAt tune.image index row c).voice c.lead

theorem compileRow_outcome (index row : Nat) :
    (tune.compileRow o index row).outcome =
      (tune.row index row).mapError Failure.malformed >>= fun _ =>
        (encodeVoices (dialect o) index row (tune.voiceAt index row)).outcome := by
  simp only [compileRow, Journal.bind_outcome, Journal.ofExcept_outcome]
  cases h : tune.row index row with
  | error cause => rfl
  | ok cells =>
      obtain ⟨-, rfl⟩ := row_eq_ok_iff.1 h
      simp only [Except.mapError, ok_bind, PerChannel.get_ofFn]
      rfl

theorem compileRow_eq_ok_iff {index row : Nat} {bytes : List UInt8} :
    (tune.compileRow o index row).outcome = .ok bytes ↔
      rowOffset index row + 16 ≤ tune.image.size ∧
        (encodeVoices (dialect o) index row (tune.voiceAt index row)).outcome = .ok bytes := by
  simp only [compileRow_outcome, bind_eq_ok_iff, mapError_eq_ok_iff, row_eq_ok_iff]
  constructor
  · intro h
    obtain ⟨_, ⟨inside, -⟩, encoded⟩ := h
    exact ⟨inside, encoded⟩
  · intro h
    exact ⟨_, ⟨h.1, rfl⟩, h.2⟩

/-- A row of which the image lacks bytes is malformed and has no fault. -/
theorem compileRow_eq_cell_iff {index row : Nat} {place : Place} {fault : Fault} :
    (tune.compileRow o index row).outcome = .error (.cell place fault) ↔
      rowOffset index row + 16 ≤ tune.image.size ∧
        (encodeVoices (dialect o) index row (tune.voiceAt index row)).outcome =
          .error (.cell place fault) := by
  simp only [compileRow_outcome, bind_eq_error_iff, mapError_eq_error_iff, mapError_eq_ok_iff,
    row_eq_ok_iff]
  constructor
  · intro h
    rcases h with ⟨_, -, ⟨⟩⟩ | ⟨_, ⟨inside, -⟩, failed⟩
    exact ⟨inside, failed⟩
  · intro h
    exact .inr ⟨_, ⟨h.1, rfl⟩, h.2⟩

theorem compilePattern_outcome (index : Nat) :
    (tune.compilePattern o index).outcome =
      ((List.range rowsPerPattern).mapM fun row => (tune.compileRow o index row).outcome) >>=
        fun rows => .ok ⟨index, rows⟩ := by
  simp only [compilePattern, Journal.bind_outcome, Journal.traverse_outcome]
  rfl

theorem compilePattern_eq_ok_iff {index : Nat} {compiled : Song.Pattern} :
    (tune.compilePattern o index).outcome = .ok compiled ↔ compiled.index = index ∧
      compiled.rows.length = rowsPerPattern ∧ ∀ (row : Nat) (h : row < compiled.rows.length),
        (tune.compileRow o index row).outcome = .ok compiled.rows[row] := by
  simp only [compilePattern_outcome, bind_eq_ok_iff, mapM_range_eq_ok_iff]
  constructor
  · intro h
    obtain ⟨rows, encoded, ⟨⟩⟩ := h
    exact ⟨rfl, encoded⟩
  · intro h
    obtain ⟨rfl, encoded⟩ := h
    exact ⟨compiled.rows, encoded, rfl⟩

theorem exists_compilePattern_iff {index : Nat} :
    (∃ compiled, (tune.compilePattern o index).outcome = .ok compiled) ↔
      ∀ row < rowsPerPattern, rowOffset index row + 16 ≤ tune.image.size ∧ ∀ c,
        ∃ command, channelCommand (dialect o) c (tune.voiceAt index row c) = .ok command := by
  simp only [compilePattern_outcome, exists_bind_ok_eq_ok_iff, exists_mapM_eq_ok_iff,
    List.mem_range, compileRow_eq_ok_iff, exists_and_left, exists_encodeVoices_iff]

theorem compile_outcome (name : String) :
    (tune.compile o name).outcome =
      (tune.played.mapM fun index => (tune.compilePattern o index).outcome) >>= fun patterns =>
        .ok ⟨name, patterns, none, tune.orders⟩ := by
  simp only [compile, Journal.bind_outcome, Journal.noteAll_outcome, Journal.traverse_outcome,
    ok_bind]
  rfl

variable {tune o}

theorem index_of_compilePattern (p : Nat) (q : Song.Pattern)
    (h : (tune.compilePattern o p).outcome = .ok q) : q.index = p :=
  ((tune.compilePattern_eq_ok_iff o).1 h).1

/-- The parts of a compiled song. -/
theorem compile_eq_ok_iff {name : String} {song : Song} :
    (tune.compile o name).outcome = .ok song ↔ song.name = name ∧ song.orders = tune.orders ∧
      List.Forall₂ (fun p q => (tune.compilePattern o p).outcome = .ok q) tune.played
        song.patterns ∧ song.startup = none := by
  simp only [compile_outcome, bind_eq_ok_iff, mapM_eq_ok_iff]
  constructor
  · intro h
    obtain ⟨patterns, compiled, ⟨⟩⟩ := h
    exact ⟨rfl, rfl, compiled, rfl⟩
  · intro h
    obtain ⟨name', patterns, startup', orders⟩ := song
    obtain ⟨rfl, rfl, compiled, rfl⟩ := h
    exact ⟨patterns, compiled, rfl⟩

end Protracker.Tune

namespace Protracker

theorem compile_outcome_tune (o : Options) (image : Image) (name : String) :
    (compile o .protracker image name).outcome =
      (Tune.parse image).mapError Failure.malformed >>= fun tune =>
        (tune.compile o name).outcome := by
  simp only [compile, Journal.bind_outcome, Journal.ofExcept_outcome]

theorem compile_eq_ok_iff_tune {o : Options} {image : Image} {name : String} {song : Song} :
    (compile o .protracker image name).outcome = .ok song ↔
      ∃ tune, Tune.parse image = .ok tune ∧ (tune.compile o name).outcome = .ok song := by
  rw [compile_outcome_tune, bind_eq_ok_iff]
  simp only [mapError_eq_ok_iff]

end Protracker

end Chiptune

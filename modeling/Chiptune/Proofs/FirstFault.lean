import Chiptune.Proofs.Compilation

/-!
# The fault that is reported

A compilation visits the played patterns in ascending order, each of them row by
row, and each row channel by channel. The two formats read their patterns in
different ways, one as a whole and the other row by row; a score says for both
which rows there are to visit and what their channels are asked for. A fault is
reported exactly if nothing goes wrong before its place, whatever is wrong
behind it.
-/

namespace Chiptune

/-- A channel has a fault: its cell cannot be read as a voice, or else the voice
cannot be encoded. -/
def Faulty (d : Dialect) (c : Channel) (voice : Except Fault Voice) (fault : Fault) : Prop :=
  voice = .error fault ∨ ∃ v, voice = .ok v ∧ (v.encode d c).outcome = .error fault

def Clean (d : Dialect) (c : Channel) (voice : Except Fault Voice) : Prop :=
  ∀ fault, ¬ Faulty d c voice fault

/-- A channel of a row is visited before a channel of a row of the same pattern. -/
def VisitedBefore (row' : Nat) (c' : Channel) (row : Nat) (c : Channel) : Prop :=
  row' < row ∨ row' = row ∧ c'.index < c.index

section

variable {d : Dialect} {c : Channel} {voice : Except Fault Voice}

theorem faulty_iff {fault : Fault} :
    Faulty d c voice fault ↔ channelCommand d c voice = .error fault := by
  simp only [Faulty, channelCommand, bind_eq_error_iff, Voice.encode_outcome]

theorem clean_iff : Clean d c voice ↔ ∃ command, channelCommand d c voice = .ok command := by
  simp only [Clean, faulty_iff]
  constructor
  · intro clean
    rcases exists_ok_or_error (channelCommand d c voice) with played | ⟨fault, h⟩
    · exact played
    · exact absurd h (clean fault)
  · intro played fault h
    obtain ⟨command, played⟩ := played
    rw [played] at h
    cases h

end

section

variable {d : Dialect} {pattern row : Nat} {voice : Channel → Except Fault Voice}

theorem encodeVoices_eq_cell_iff {place : Place} {fault : Fault} :
    (encodeVoices d pattern row voice).outcome = .error (.cell place fault) ↔
      place.pattern = pattern ∧ place.row = row ∧
        Faulty d place.channel (voice place.channel) fault ∧
        ∀ c, c.index < place.channel.index → Clean d c (voice c) := by
  simp only [encodeVoices_eq_error_iff, faulty_iff, clean_iff]
  constructor
  · intro h
    obtain ⟨c, _, ⟨⟩, faulty, before⟩ := h
    exact ⟨rfl, rfl, faulty, before⟩
  · intro h
    obtain ⟨p, r, c⟩ := place
    obtain ⟨rfl, rfl, faulty, before⟩ := h
    exact ⟨c, fault, rfl, faulty, before⟩

end

/-- The first fault of a pattern whose rows are read and encoded one by one. -/
theorem mapM_rows_eq_cell_iff (d : Dialect) (pattern : Nat) (readable : Nat → Prop)
    (voice : Nat → Channel → Except Fault Voice) (step : Nat → Except Failure (List UInt8))
    (rows : Nat) (succeeds : ∀ row, (∃ bytes, step row = .ok bytes) ↔
      readable row ∧ ∀ c, Clean d c (voice row c))
    (fails : ∀ row place fault, step row = .error (.cell place fault) ↔ readable row ∧
      (encodeVoices d pattern row (voice row)).outcome = .error (.cell place fault))
    {place : Place} {fault : Fault} :
    (List.range rows).mapM step = .error (.cell place fault) ↔
      place.pattern = pattern ∧ place.row < rows ∧ (∀ row ≤ place.row, readable row) ∧
        Faulty d place.channel (voice place.row place.channel) fault ∧
        ∀ row c, VisitedBefore row c place.row place.channel → Clean d c (voice row c) := by
  rw [mapM_eq_error_iff_of_ascending List.pairwise_lt_range]
  simp only [List.mem_range, succeeds, fails, encodeVoices_eq_cell_iff]
  -- what is visited before a place lies in an earlier row, or in its own row on a
  -- channel before its own
  constructor
  · intro h
    obtain ⟨row, inside, earlier, read, rfl, rfl, faulty, before⟩ := h
    refine ⟨rfl, inside, ?_, faulty, ?_⟩
    · intro row le
      rcases Nat.lt_or_eq_of_le le with lt | rfl
      · exact (earlier row (by omega) lt).1
      · exact read
    · intro row c visited
      rcases visited with lt | ⟨rfl, lt⟩
      · exact (earlier row (by omega) lt).2 c
      · exact before c lt
  · intro h
    obtain ⟨rfl, inside, read, faulty, clean⟩ := h
    refine ⟨place.row, inside, ?_, read _ (Nat.le_refl _), rfl, rfl, faulty, ?_⟩
    · intro row _ lt
      exact ⟨read row (Nat.le_of_lt lt), fun c => clean row c (.inl lt)⟩
    · intro c lt
      exact clean place.row c (.inr ⟨rfl, lt⟩)

/-- What there is to visit in a song. -/
structure Score where
  dialect : Dialect
  /-- The pattern is played. -/
  played : Nat → Prop
  /-- The pattern can be read as a whole. -/
  whole : Nat → Prop
  /-- The row of the pattern can be read, and its channels are asked for these
  voices. -/
  row : Nat → Nat → (Channel → Except Fault Voice) → Prop

namespace Score

variable (score : Score)

/-- A channel of a played pattern has a fault. -/
def FaultAt (place : Place) (fault : Fault) : Prop :=
  score.played place.pattern ∧ ∃ voice, score.row place.pattern place.row voice ∧
    Faulty score.dialect place.channel (voice place.channel) fault

/-- A channel has a fault, and nothing goes wrong before it. -/
structure FirstFault (place : Place) (fault : Fault) : Prop where
  here : score.FaultAt place fault
  earlierPatterns : ∀ p, score.played p → p < place.pattern →
    score.whole p ∧ ∀ row voice, score.row p row voice → ∀ c, Clean score.dialect c (voice c)
  earlierCells : ∀ row voice c, score.row place.pattern row voice →
    VisitedBefore row c place.row place.channel → Clean score.dialect c (voice c)

/-- The patterns of a song are compiled by its score. -/
structure Compiles (step : Nat → Except Failure Song.Pattern) : Prop where
  succeeds : ∀ p, (∃ compiled, step p = .ok compiled) ↔
    score.whole p ∧ ∀ row voice, score.row p row voice → ∀ c, Clean score.dialect c (voice c)
  fails : ∀ p place fault, step p = .error (.cell place fault) ↔ place.pattern = p ∧
    ∃ voice, score.row p place.row voice ∧
      Faulty score.dialect place.channel (voice place.channel) fault ∧
      ∀ row voice c, score.row p row voice → VisitedBefore row c place.row place.channel →
        Clean score.dialect c (voice c)

variable {score} {step : Nat → Except Failure Song.Pattern} {patterns : List Nat}

theorem Compiles.mapM_eq_cell_iff (compiles : score.Compiles step)
    (ascending : patterns.Pairwise (· < ·)) (played : ∀ p, p ∈ patterns ↔ score.played p)
    {place : Place} {fault : Fault} :
    patterns.mapM step = .error (.cell place fault) ↔ score.FirstFault place fault := by
  rw [mapM_eq_error_iff_of_ascending ascending]
  simp only [played, compiles.succeeds, compiles.fails]
  constructor
  · intro h
    obtain ⟨p, hp, earlier, rfl, voice, read, faulty, before⟩ := h
    exact ⟨⟨hp, voice, read, faulty⟩, earlier, before⟩
  · intro h
    obtain ⟨⟨hp, voice, read, faulty⟩, earlier, before⟩ := h
    exact ⟨place.pattern, hp, earlier, rfl, voice, read, faulty, before⟩

/-- Nothing is compiled from a song with a fault. -/
theorem Compiles.mapM_ne_ok (compiles : score.Compiles step)
    (played : ∀ p, p ∈ patterns ↔ score.played p) {place : Place} {fault : Fault}
    (h : score.FaultAt place fault) (results : List Song.Pattern) :
    patterns.mapM step ≠ .ok results := by
  intro compiled
  obtain ⟨hp, voice, read, faulty⟩ := h
  have each := exists_mapM_eq_ok_iff.1 ⟨results, compiled⟩ _ ((played _).2 hp)
  exact ((compiles.succeeds _).1 each).2 _ _ read _ _ faulty

end Score

namespace ScreamTracker.Tune

variable (tune : Tune) (o : Options)

/-- A pattern is read as a whole; the cells behind its last row end belong to no
row. -/
def score : Score where
  dialect := dialect o
  played p := p ∈ tune.orders.map UInt8.toNat ∧ p < tune.patternCount
  whole p := ∃ source, tune.pattern p = .ok source
  row p row voice := ∃ source, tune.pattern p = .ok source ∧ row < source.rowCount ∧
    voice = tune.voiceAt source row

theorem compilePattern_eq_cell_iff {p : Nat} {place : Place} {fault : Fault} :
    (tune.compilePattern o p).outcome = .error (.cell place fault) ↔
      ∃ source, tune.pattern p = .ok source ∧ place.pattern = p ∧ place.row < source.rowCount ∧
        Faulty (dialect o) place.channel (tune.voiceAt source place.row place.channel) fault ∧
        ∀ row c, VisitedBefore row c place.row place.channel →
          Clean (dialect o) c (tune.voiceAt source row c) := by
  have rows (source : Pattern) : ((List.range source.rowCount).mapM fun row =>
      (encodeVoices (dialect o) p row (tune.voiceAt source row)).outcome) =
        .error (.cell place fault) ↔ _ :=
    mapM_rows_eq_cell_iff (dialect o) p (fun _ => True) (tune.voiceAt source) _ _
      (by simp only [exists_encodeVoices_iff, clean_iff, true_and, implies_true])
      (by simp only [true_and, implies_true])
  simp only [compilePattern_outcome, bind_eq_error_iff, mapError_eq_error_iff,
    mapError_eq_ok_iff, rows]
  constructor
  · intro h
    rcases h with ⟨_, -, ⟨⟩⟩ | ⟨source, read, ⟨here, inside, -, faulty⟩ | ⟨_, -, ⟨⟩⟩⟩
    exact ⟨source, read, here, inside, faulty⟩
  · intro h
    obtain ⟨source, read, here, inside, faulty⟩ := h
    exact .inr ⟨source, read, .inl ⟨here, inside, fun _ _ => trivial, faulty⟩⟩

theorem compiles : (tune.score o).Compiles fun p => (tune.compilePattern o p).outcome where
  succeeds p := by
    rw [exists_compilePattern_iff]
    simp only [← clean_iff]
    constructor
    · intro h
      obtain ⟨source, read, clean⟩ := h
      refine ⟨⟨source, read⟩, ?_⟩
      intro row voice rowRead c
      obtain ⟨source', read', inside, rfl⟩ := rowRead
      cases read.symm.trans read'
      exact clean row inside c
    · intro h
      obtain ⟨⟨source, read⟩, clean⟩ := h
      exact ⟨source, read, fun row inside c => clean row _ ⟨source, read, inside, rfl⟩ c⟩
  fails p place fault := by
    rw [compilePattern_eq_cell_iff]
    constructor
    · intro h
      obtain ⟨source, read, here, inside, faulty, before⟩ := h
      refine ⟨here, _, ⟨source, read, inside, rfl⟩, faulty, ?_⟩
      intro row voice c rowRead visited
      obtain ⟨source', read', -, rfl⟩ := rowRead
      cases read.symm.trans read'
      exact before row c visited
    · intro h
      obtain ⟨here, _, ⟨source, read, inside, rfl⟩, faulty, before⟩ := h
      refine ⟨source, read, here, inside, faulty, ?_⟩
      intro row c visited
      have earlier : row < source.rowCount := by
        rcases visited with lt | ⟨rfl, -⟩
        · omega
        · exact inside
      exact before row _ c ⟨source, read, earlier, rfl⟩ visited

/-- Whatever is wrong with the wave instruments is no fault of a cell. -/
theorem startup_ne_cell (place : Place) (fault : Fault) :
    (tune.startup o).outcome ≠ .error (.cell place fault) := by
  intro h
  rw [startup_outcome, bind_eq_error_iff] at h
  rcases h with failed | ⟨_, -, ⟨⟩⟩
  obtain ⟨_, _, -, failed⟩ := mapM_eq_error_iff.1 failed
  rw [waveSlot_outcome] at failed
  split at failed
  · cases failed
  · obtain ⟨_, -, ⟨⟩⟩ := mapError_eq_error_iff.1 (map_eq_error_iff.1 failed)

theorem mem_played_iff (p : Nat) : p ∈ tune.played ↔ (tune.score o).played p := by
  rw [mem_played, mem_validOrders]
  rfl

theorem compile_eq_cell_iff {name : String} {place : Place} {fault : Fault} :
    (tune.compile o name).outcome = .error (.cell place fault) ↔
      (tune.score o).FirstFault place fault := by
  rw [← (tune.compiles o).mapM_eq_cell_iff tune.played_ascending (tune.mem_played_iff o),
    compile_outcome]
  simp only [bind_eq_error_iff]
  constructor
  · intro h
    rcases h with failed | ⟨_, -, failed | ⟨_, -, ⟨⟩⟩⟩
    · exact failed
    · exact absurd failed (tune.startup_ne_cell o place fault)
  · intro failed
    exact .inl failed

theorem compile_ne_ok {name : String} {place : Place} {fault : Fault}
    (h : (tune.score o).FaultAt place fault) (song : Song) :
    (tune.compile o name).outcome ≠ .ok song := by
  rw [compile_outcome]
  intro compiled
  obtain ⟨patterns, compiled, -⟩ := bind_eq_ok_iff.1 compiled
  exact (tune.compiles o).mapM_ne_ok (tune.mem_played_iff o) h patterns compiled

end ScreamTracker.Tune

namespace Protracker.Tune

variable (tune : Tune) (o : Options)

/-- A pattern is read row by row, as far as the image reaches. -/
def score : Score where
  dialect := dialect o
  played p := p ∈ tune.orders
  whole p := 1084 + 1024 * (p + 1) ≤ tune.image.size
  row p row voice := row < rowsPerPattern ∧ rowOffset p row + 16 ≤ tune.image.size ∧
    voice = tune.voiceAt p row

theorem compilePattern_eq_cell_iff {p : Nat} {place : Place} {fault : Fault} :
    (tune.compilePattern o p).outcome = .error (.cell place fault) ↔ place.pattern = p ∧
      place.row < rowsPerPattern ∧ (∀ row ≤ place.row, rowOffset p row + 16 ≤ tune.image.size) ∧
        Faulty (dialect o) place.channel (tune.voiceAt p place.row place.channel) fault ∧
        ∀ row c, VisitedBefore row c place.row place.channel →
          Clean (dialect o) c (tune.voiceAt p row c) := by
  rw [compilePattern_outcome, bind_ok_eq_error_iff]
  apply mapM_rows_eq_cell_iff (dialect o) p (fun row => rowOffset p row + 16 ≤ tune.image.size)
    (tune.voiceAt p) fun row => (tune.compileRow o p row).outcome
  · simp only [compileRow_eq_ok_iff, exists_and_left, exists_encodeVoices_iff, clean_iff,
      implies_true]
  · simp only [compileRow_eq_cell_iff, implies_true]

theorem compiles : (tune.score o).Compiles fun p => (tune.compilePattern o p).outcome where
  succeeds p := by
    rw [exists_compilePattern_iff]
    simp only [← clean_iff]
    constructor
    · intro h
      refine ⟨rows_stored_iff.1 fun row inside => (h row inside).1, ?_⟩
      intro row voice rowRead c
      obtain ⟨inside, -, rfl⟩ := rowRead
      exact (h row inside).2 c
    · intro h row inside
      obtain ⟨whole, clean⟩ := h
      have stored := rows_stored_iff.2 whole
      exact ⟨stored row inside, clean row _ ⟨inside, stored row inside, rfl⟩⟩
  fails p place fault := by
    rw [compilePattern_eq_cell_iff]
    constructor
    · intro h
      obtain ⟨here, inside, stored, faulty, before⟩ := h
      refine ⟨here, _, ⟨inside, stored _ (Nat.le_refl _), rfl⟩, faulty, ?_⟩
      intro row voice c rowRead visited
      obtain ⟨-, -, rfl⟩ := rowRead
      exact before row c visited
    · intro h
      obtain ⟨here, _, ⟨inside, stored, rfl⟩, faulty, before⟩ := h
      have storedBefore : ∀ row ≤ place.row, rowOffset p row + 16 ≤ tune.image.size := by
        intro row le
        unfold rowOffset at stored ⊢
        omega
      refine ⟨here, inside, storedBefore, faulty, ?_⟩
      intro row c visited
      have le : row ≤ place.row := by
        rcases visited with lt | ⟨rfl, -⟩
        · exact Nat.le_of_lt lt
        · exact Nat.le_refl _
      exact before row _ c ⟨by omega, storedBefore row le, rfl⟩ visited

theorem compile_eq_cell_iff {name : String} {place : Place} {fault : Fault} :
    (tune.compile o name).outcome = .error (.cell place fault) ↔
      (tune.score o).FirstFault place fault := by
  rw [compile_outcome, bind_ok_eq_error_iff]
  exact (tune.compiles o).mapM_eq_cell_iff tune.played_ascending fun _ => tune.mem_played

theorem compile_ne_ok {name : String} {place : Place} {fault : Fault}
    (h : (tune.score o).FaultAt place fault) (song : Song) :
    (tune.compile o name).outcome ≠ .ok song := by
  rw [compile_outcome]
  intro compiled
  obtain ⟨patterns, compiled, -⟩ := bind_eq_ok_iff.1 compiled
  exact (tune.compiles o).mapM_ne_ok (fun _ => tune.mem_played) h patterns compiled

end Protracker.Tune

/-- The score of an image whose header can be read. -/
def Score.ofImage (o : Options) (image : Image) : Format → Except Malformed Score
  | .screamTracker => (ScreamTracker.Tune.parse image).map fun tune => tune.score o
  | .protracker => (Protracker.Tune.parse image).map fun tune => tune.score o

/-- A fault is reported, with its place, exactly if it is the first one and
nothing before it is malformed; and no song comes of an image with a fault. -/
theorem compile_reports_first_fault {o : Options} {image : Image} {format : Format} {score : Score}
    (h : Score.ofImage o image format = .ok score) (name : String) :
    (∀ place fault, (compile o format image name).outcome = .error (.cell place fault) ↔
      score.FirstFault place fault) ∧
    ∀ place fault, score.FaultAt place fault →
      ∀ song, (compile o format image name).outcome ≠ .ok song := by
  cases format with
  | screamTracker =>
      obtain ⟨tune, parsed, rfl⟩ := map_eq_ok_iff.1 h
      have compiled : (compile o .screamTracker image name).outcome =
          (tune.compile o name).outcome := by
        rw [compile, Journal.bind_outcome, Journal.ofExcept_outcome, parsed]
        rfl
      rw [compiled]
      exact ⟨fun _ _ => tune.compile_eq_cell_iff o, fun _ _ => tune.compile_ne_ok o⟩
  | protracker =>
      obtain ⟨tune, parsed, rfl⟩ := map_eq_ok_iff.1 h
      have compiled : (compile o .protracker image name).outcome =
          (tune.compile o name).outcome := by
        rw [compile, Journal.bind_outcome, Journal.ofExcept_outcome, parsed]
        rfl
      rw [compiled]
      exact ⟨fun _ _ => tune.compile_eq_cell_iff o, fun _ _ => tune.compile_ne_ok o⟩

/-- One row with two faults: a note that is too low on the second channel, and an
effect that the player does not have on the fourth. -/
def twoFaults : Image := ScreamTracker.onePatternImage [0x83, 7, 0, 0x21, 0x10, 1, 0]

theorem compile_twoFaults_reports_first_fault :
    ∃ score, Score.ofImage {} twoFaults .screamTracker = .ok score ∧
      score.FirstFault ⟨0, 0, .pulse2⟩ .noteTooLow ∧
      ∀ place fault, score.FaultAt place fault →
        ∀ song, (compile {} .screamTracker twoFaults "short").outcome ≠ .ok song := by
  have reported : (compile {} .screamTracker twoFaults "short").outcome =
      .error (.cell ⟨0, 0, .pulse2⟩ .noteTooLow) := by decide +kernel
  have readable : (ScreamTracker.Tune.parse twoFaults).isOk = true := by decide +kernel
  rcases exists_ok_or_error (ScreamTracker.Tune.parse twoFaults) with ⟨tune, parsed⟩ | ⟨_, failed⟩
  · have scored : Score.ofImage {} twoFaults .screamTracker = .ok (tune.score {}) := by
      rw [Score.ofImage, parsed]
      rfl
    obtain ⟨first, nothing⟩ := compile_reports_first_fault scored "short"
    exact ⟨_, scored, (first _ _).1 reported, nothing⟩
  · rw [failed] at readable
    cases readable

end Chiptune

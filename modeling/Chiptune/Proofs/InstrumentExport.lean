import Chiptune.Proofs.Startup

/-!
# What the export of instruments changes

With its instruments exported, a song says more in its start-up stream: the
samples of the wave slots stand before the end tag, and everything else is as it
would be without them. The export can also fail, namely at the lowest slot whose
sample the player cannot take. It comes last in a conversion, so it never hides
another failure, and without it no sample is looked at.
-/

namespace Chiptune

namespace ScreamTracker

/-- The player cannot take the sample of an instrument: its bytes are not all in
the image, or it is neither a short nor a long wave. -/
def Unusable (image : Image) (instrument : Instrument) : Prop :=
  image.size < instrument.sampleOffset + instrument.length ∨
    (instrument.length ≠ 32 ∧ instrument.length ≠ 64)

/-- A wave slot holds an instrument whose sample the player cannot take. -/
def HoldsUnusable (image : Image) (tune : Tune) : Prop :=
  ∃ number, (8 ≤ number ∧ number ≤ 15) ∧
    ∃ instrument, tune.instrument number = some instrument ∧ Unusable image instrument

/-- Why the instrument in a wave slot is refused; the bytes of the sample are
looked for before its length is judged. -/
inductive Refuses (image : Image) (number : UInt8) (instrument : Instrument) : Malformed → Prop
  | outside (beyond : image.size < instrument.sampleOffset + instrument.length) :
      Refuses image number instrument
        (.sampleBounds instrument.name instrument.sampleOffset instrument.length)
  | length (inside : instrument.sampleOffset + instrument.length ≤ image.size)
      (odd : instrument.length ≠ 32 ∧ instrument.length ≠ 64) :
      Refuses image number instrument
        (.waveLength number.toNat instrument.name instrument.length)

/-- The lowest of the slots 8 to 15 whose sample the player cannot take is refused. -/
inductive LowestRefused (image : Image) (tune : Tune) : Malformed → Prop
  | intro {number : UInt8} {instrument : Instrument} {cause : Malformed}
      (slot : 8 ≤ number ∧ number ≤ 15) (held : tune.instrument number = some instrument)
      (refused : Refuses image number instrument cause)
      (lowest : ∀ lower, 8 ≤ lower → lower < number → ∀ instrument,
        tune.instrument lower = some instrument → ¬ Unusable image instrument) :
      LowestRefused image tune cause

theorem exists_refuses_iff {image : Image} (number : UInt8) {instrument : Instrument} :
    (∃ cause, Refuses image number instrument cause) ↔ Unusable image instrument := by
  constructor
  · intro h
    obtain ⟨cause, refused⟩ := h
    cases refused with
    | outside beyond => exact .inl beyond
    | length inside odd => exact .inr odd
  · intro unusable
    by_cases inside : instrument.sampleOffset + instrument.length ≤ image.size
    · have odd := unusable.resolve_left (Nat.not_lt.2 inside)
      exact ⟨_, .length inside odd⟩
    · exact ⟨_, .outside (Nat.lt_of_not_le inside)⟩

theorem waveFlag?_eq_none_iff {number : UInt8} {length : Nat} :
    waveFlag? number length = none ↔ length ≠ 32 ∧ length ≠ 64 := by
  unfold waveFlag? shortWave longWave
  by_cases short : length = 32
  · simp [short]
  · by_cases long : length = 64
    · simp [long]
    · simp [short, long]

theorem Instrument.sample_eq_error_iff {instrument : Instrument} {image : Image}
    {cause : Malformed} : instrument.sample image = .error cause ↔
      image.size < instrument.sampleOffset + instrument.length ∧
        cause = .sampleBounds instrument.name instrument.sampleOffset instrument.length := by
  unfold Instrument.sample
  by_cases inside : instrument.sampleOffset + instrument.length ≤ image.size
  · rw [if_pos inside]
    exact iff_of_false (fun h => nomatch h) fun h => Nat.not_lt.2 inside h.1
  · rw [if_neg inside, Except.error.injEq, and_iff_right (Nat.lt_of_not_le inside), eq_comm]

theorem waveItem_eq_error_iff {image : Image} {number : UInt8} {instrument : Instrument}
    {cause : Malformed} :
    waveItem image number instrument = .error cause ↔ Refuses image number instrument cause := by
  rw [waveItem, bind_eq_error_iff]
  constructor
  · intro h
    rcases h with missing | ⟨sample, found, judged⟩
    · obtain ⟨beyond, rfl⟩ := instrument.sample_eq_error_iff.1 missing
      exact .outside beyond
    · obtain ⟨inside, rfl⟩ := instrument.sample_eq_ok_iff.1 found
      rw [List.length_map, List.length_range] at judged
      split at judged
      · rename_i odd
        cases judged
        exact .length inside (waveFlag?_eq_none_iff.1 odd)
      · cases judged
  · intro refused
    cases refused with
    | outside beyond => exact .inl (instrument.sample_eq_error_iff.2 ⟨beyond, rfl⟩)
    | length inside odd =>
        refine .inr ⟨_, instrument.sample_eq_ok_iff.2 ⟨inside, rfl⟩, ?_⟩
        rw [List.length_map, List.length_range, waveFlag?_eq_none_iff.2 odd]

theorem mem_waveNumbers_iff : ∀ number : UInt8, number ∈ waveNumbers ↔ 8 ≤ number ∧ number ≤ 15 :=
  forall_byte (by decide +kernel)

namespace Tune

variable (tune : Tune)

theorem waveSlot_eq_error_iff {number : UInt8} {failure : Failure} :
    (tune.waveSlot number).outcome = .error failure ↔ ∃ instrument cause,
      tune.instrument number = some instrument ∧ Refuses tune.image number instrument cause ∧
        failure = .malformed cause := by
  rw [waveSlot_outcome]
  cases tune.instrument number with
  | none => simp
  | some instrument =>
      simp only [map_eq_error_iff, mapError_eq_error_iff, waveItem_eq_error_iff]
      constructor
      · intro h
        obtain ⟨cause, refused, rfl⟩ := h
        exact ⟨instrument, cause, rfl, refused, rfl⟩
      · intro h
        obtain ⟨_, cause, ⟨⟩, refused, rfl⟩ := h
        exact ⟨cause, refused, rfl⟩

theorem exists_waveSlot_error_iff {number : UInt8} :
    (∃ failure, (tune.waveSlot number).outcome = .error failure) ↔ ∃ instrument,
      tune.instrument number = some instrument ∧ Unusable tune.image instrument := by
  simp only [waveSlot_eq_error_iff, ← exists_refuses_iff number]
  constructor
  · intro h
    obtain ⟨_, instrument, cause, held, refused, -⟩ := h
    exact ⟨instrument, held, cause, refused⟩
  · intro h
    obtain ⟨instrument, held, cause, refused⟩ := h
    exact ⟨_, instrument, cause, held, refused, rfl⟩

theorem exists_waveSlot_iff {number : UInt8} :
    (∃ item, (tune.waveSlot number).outcome = .ok item) ↔ ∀ instrument,
      tune.instrument number = some instrument → ¬ Unusable tune.image instrument := by
  rw [← not_iff_not, ← exists_error_iff, exists_waveSlot_error_iff]
  simp only [not_forall, not_not, exists_prop]

/-- The items of the wave slots, in ascending order. -/
def waveItems : Except Failure (List (Option StartupItem)) :=
  waveNumbers.mapM fun number => (tune.waveSlot number).outcome

theorem exists_waveItems_error_iff :
    (∃ failure, tune.waveItems = .error failure) ↔ HoldsUnusable tune.image tune := by
  rw [exists_error_iff, waveItems, exists_mapM_eq_ok_iff, HoldsUnusable]
  simp only [mem_waveNumbers_iff, ← exists_waveSlot_error_iff, exists_error_iff, not_forall,
    exists_prop]

/-- The lowest slot that cannot be exported decides the failure. -/
theorem waveItems_eq_error_iff {failure : Failure} :
    tune.waveItems = .error failure ↔
      ∃ cause, failure = .malformed cause ∧ LowestRefused tune.image tune cause := by
  have ascending : waveNumbers.Pairwise (· < ·) := by decide
  rw [waveItems, mapM_eq_error_iff_of_ascending ascending]
  constructor
  · intro h
    obtain ⟨number, member, before, failed⟩ := h
    obtain ⟨instrument, cause, held, refused, rfl⟩ := tune.waveSlot_eq_error_iff.1 failed
    have slot := (mem_waveNumbers_iff number).1 member
    refine ⟨cause, rfl, .intro slot held refused ?_⟩
    intro lower first smaller
    have member' : lower ∈ waveNumbers :=
      (mem_waveNumbers_iff lower).2 ⟨first, UInt8.le_trans (UInt8.le_of_lt smaller) slot.2⟩
    exact tune.exists_waveSlot_iff.1 (before lower member' smaller)
  · intro h
    obtain ⟨_, rfl, ⟨slot, held, refused, lowest⟩⟩ := h
    refine ⟨_, (mem_waveNumbers_iff _).2 slot, ?_,
      tune.waveSlot_eq_error_iff.2 ⟨_, _, held, refused, rfl⟩⟩
    intro lower member smaller
    rw [exists_waveSlot_iff]
    exact lowest lower ((mem_waveNumbers_iff lower).1 member).1 smaller

/-- What the start-up stream begins with: the speed and the panning. -/
def startupFront (speed : Option Bool) : List UInt8 :=
  [StartupItem.speed (Sound.playerSpeed tune.speed
      (Options.convertsSpeed ⟨speed, false⟩ .screamTracker)),
    .panning tune.panning].flatMap StartupItem.toBytes

theorem startup_plain (speed : Option Bool) :
    (tune.startup ⟨speed, false⟩).outcome = .ok (tune.startupFront speed ++ [0]) := by
  rw [startup_outcome]
  rfl

/-- The start-up stream with the samples of the wave slots. -/
def startupWith (speed : Option Bool) (waves : List (Option StartupItem)) : List UInt8 :=
  tune.startupFront speed ++ (waves.filterMap id).flatMap StartupItem.toBytes ++ [0]

theorem startup_exporting (speed : Option Bool) :
    (tune.startup ⟨speed, true⟩).outcome =
      tune.waveItems >>= fun waves => .ok (tune.startupWith speed waves) := by
  rw [startup_outcome]
  simp only [StartupItem.encode, List.flatMap_append]
  rfl

/-- The export comes last: it adds the samples to the song without them. -/
theorem compile_exporting (speed : Option Bool) (name : String) :
    (tune.compile ⟨speed, true⟩ name).outcome =
      (tune.compile ⟨speed, false⟩ name).outcome >>= fun song =>
        tune.waveItems >>= fun waves =>
          .ok { song with startup := some (tune.startupWith speed waves) } := by
  have patterns :
      (tune.played.mapM fun index => (tune.compilePattern ⟨speed, true⟩ index).outcome) =
        tune.played.mapM fun index => (tune.compilePattern ⟨speed, false⟩ index).outcome := rfl
  rw [compile_outcome, compile_outcome, startup_exporting, startup_plain, patterns]
  cases tune.played.mapM fun index => (tune.compilePattern ⟨speed, false⟩ index).outcome with
  | error failure => rfl
  | ok patterns => cases tune.waveItems <;> rfl

theorem startup_of_plain {speed : Option Bool} {name : String} {song : Song}
    (h : (tune.compile ⟨speed, false⟩ name).outcome = .ok song) :
    song.startup = some (tune.startupFront speed ++ [0]) := by
  obtain ⟨-, -, -, stream, started, given⟩ := compile_eq_ok_iff.1 h
  rw [startup_plain] at started
  rw [given, ← Except.ok.inj started]

end Tune

end ScreamTracker

/-- The second song differs from the first in what stands before the end tag of
its start-up stream, and in nothing else. -/
structure StartupExtended (song song' : Song) : Prop where
  name : song'.name = song.name
  orders : song'.orders = song.orders
  patterns : song'.patterns = song.patterns
  startup : ∃ front more, song.startup = some (front ++ [0]) ∧
    song'.startup = some (front ++ more ++ [0])

/-- How a conversion ends that exports instruments, where the given song comes
out without them. -/
structure ExportEnds (image : Image) (tune : ScreamTracker.Tune) (song : Song)
    (outcome : Except Failure Song) : Prop where
  fails : (∃ failure, outcome = .error failure) ↔ ScreamTracker.HoldsUnusable image tune
  cause : ∀ failure, outcome = .error failure →
    ∃ cause, failure = .malformed cause ∧ ScreamTracker.LowestRefused image tune cause
  extended : ∀ song', outcome = .ok song' → StartupExtended song song'

namespace ScreamTracker

theorem exportEnds_of_compile {tune : Tune} {speed : Option Bool} {name : String} {song : Song}
    (compiled : (tune.compile ⟨speed, false⟩ name).outcome = .ok song) :
    ExportEnds tune.image tune song (tune.compile ⟨speed, true⟩ name).outcome := by
  have run : (tune.compile ⟨speed, true⟩ name).outcome = tune.waveItems >>= fun waves =>
      .ok { song with startup := some (tune.startupWith speed waves) } := by
    rw [Tune.compile_exporting, compiled, ok_bind]
  constructor
  · simp only [run, bind_ok_eq_error_iff]
    exact tune.exists_waveItems_error_iff
  · intro failure failed
    rw [run, bind_ok_eq_error_iff] at failed
    exact tune.waveItems_eq_error_iff.1 failed
  · intro song' exported
    rw [run, bind_eq_ok_iff] at exported
    obtain ⟨waves, -, ⟨⟩⟩ := exported
    exact ⟨rfl, rfl, rfl, _, _, tune.startup_of_plain compiled, rfl⟩

/-- A conversion that fails without exporting instruments fails in the same way
when it exports them. One that succeeds then fails exactly if a wave slot holds
an instrument whose sample the player cannot take, because of the lowest such
slot, and otherwise the start-up stream is extended. Protracker songs have no
instruments to export. -/
theorem compile_export_extends_startup (speed : Option Bool) (image : Image) (name : String) :
    (∀ failure, (compile ⟨speed, false⟩ .screamTracker image name).outcome = .error failure →
      (compile ⟨speed, true⟩ .screamTracker image name).outcome = .error failure) ∧
    (∀ song, (compile ⟨speed, false⟩ .screamTracker image name).outcome = .ok song →
      ∃ tune, Tune.parse image = .ok tune ∧
        ExportEnds image tune song (compile ⟨speed, true⟩ .screamTracker image name).outcome) ∧
    compile ⟨speed, true⟩ .protracker image name =
      compile ⟨speed, false⟩ .protracker image name := by
  refine ⟨?_, ?_, rfl⟩
  · intro failure failed
    rw [compile_outcome_tune, bind_eq_error_iff] at failed ⊢
    rcases failed with unread | ⟨tune, parsed, failed⟩
    · exact .inl unread
    · refine .inr ⟨tune, parsed, ?_⟩
      rw [Tune.compile_exporting, failed, error_bind]
  · intro song compiled
    obtain ⟨tune, parsed, compiled⟩ := compile_eq_ok_iff_tune.1 compiled
    have inImage : tune.image = image := by
      obtain ⟨-, instruments, -, rfl⟩ := Tune.parse_eq_ok_iff.1 parsed
      rw [headerOf]
    have run : (compile ⟨speed, true⟩ .screamTracker image name).outcome =
        (tune.compile ⟨speed, true⟩ name).outcome := by
      rw [compile_outcome_tune, parsed]
      rfl
    refine ⟨tune, parsed, ?_⟩
    rw [run, ← inImage]
    exact exportEnds_of_compile compiled

/-- The image of a song without patterns. Slot 8 holds a short sample, slot 9 one
with a byte more, and the sample of slot 10 reaches behind the end of the image. -/
def unevenSamples : Image := Array.mk <|
  List.replicate 28 0 ++ [nameMarker, 0, 0, 0, 0, 0, 10, 0, 0, 0, 0, 0, 0, 0, 0, 0] ++
    songSignature ++ [0, 6, playerTempo] ++ List.replicate 45 0 ++
    List.replicate 14 0 ++ [10, 0, 15, 0, 20, 0] ++ List.replicate 44 0 ++
    sampleRecord 25 32 ++ sampleRecord 25 33 ++ sampleRecord 25 64 ++ List.replicate 40 0xF0

theorem compile_unevenSamples_export_ends :
    ∃ song, (compile ⟨none, false⟩ .screamTracker unevenSamples "short").outcome = .ok song ∧
      (compile ⟨none, true⟩ .screamTracker unevenSamples "short").outcome =
        .error (.malformed (.waveLength 9 "" 33)) ∧
      ∃ tune, Tune.parse unevenSamples = .ok tune ∧
        ExportEnds unevenSamples tune song (.error (.malformed (.waveLength 9 "" 33))) := by
  have compiled : (compile ⟨none, false⟩ .screamTracker unevenSamples "short").outcome = .ok
      { name := "short"
        patterns := []
        startup := some [1, 6, 2, 0x11, 0x22, 0x44, 0x88, 0]
        orders := [] } := by decide +kernel
  have refused : (compile ⟨none, true⟩ .screamTracker unevenSamples "short").outcome =
      .error (.malformed (.waveLength 9 "" 33)) := by decide +kernel
  obtain ⟨-, ends, -⟩ := compile_export_extends_startup none unevenSamples "short"
  have ends := ends _ compiled
  rw [refused] at ends
  exact ⟨_, compiled, refused, ends⟩

end ScreamTracker

end Chiptune

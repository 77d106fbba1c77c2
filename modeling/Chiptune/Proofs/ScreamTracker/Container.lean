import Chiptune.Proofs.Compilation
import Chiptune.Proofs.ScreamTracker.Layout

/-!
# Which images are Scream Tracker songs

A song is read exactly if its header is valid and every instrument paragraph
that is not zero leads to a record: some byte of the image, which starts a whole
and signed record if it says that the instrument is sampled. What has been read
then answers from the tables of the image, each at its place. An image that is
refused is malformed, whatever the song was to be compiled for.
-/

namespace Chiptune.ScreamTracker

/-- The bytes at a paragraph can be read as an instrument. -/
structure ValidRecord (image : Image) (paragraph : Nat) : Prop where
  present : 16 * paragraph < image.size
  complete : image.byteAt (16 * paragraph) = 1 → 16 * paragraph + 0x50 ≤ image.size
  signature : image.byteAt (16 * paragraph) = 1 →
    [image.byteAt (16 * paragraph + 0x4C), image.byteAt (16 * paragraph + 0x4D),
      image.byteAt (16 * paragraph + 0x4E), image.byteAt (16 * paragraph + 0x4F)] =
        sampleSignature

/-- A paragraph leads to a sampled instrument. -/
def IsSampled (image : Image) (paragraph : Nat) : Prop :=
  paragraph ≠ 0 ∧ image.byteAt (16 * paragraph) = 1

instance (image : Image) (paragraph : Nat) : Decidable (IsSampled image paragraph) := by
  unfold IsSampled
  infer_instance

/-- The instrument that a record describes. -/
def recordAt (image : Image) (paragraph : Nat) : Instrument where
  name := Text.field ((List.range 28).map fun k => image.byteAt (16 * paragraph + 0x30 + k))
  fileName := Text.field ((List.range 12).map fun k => image.byteAt (16 * paragraph + 0x01 + k))
  defaultVolume := image.byteAt (16 * paragraph + 0x1C)
  length := image.longAt (16 * paragraph + 0x10)
  sampleOffset := 16 * image.wideAt (16 * paragraph + 0x0D)

/-- The slot of an instrument paragraph. -/
def slotAt (image : Image) (paragraph : Nat) : Option Instrument :=
  if IsSampled image paragraph then some (recordAt image paragraph) else none

theorem slotAt_of_sampled {image : Image} {paragraph : Nat} (sampled : IsSampled image paragraph) :
    slotAt image paragraph = some (recordAt image paragraph) := if_pos sampled

theorem slotAt_of_unsampled {image : Image} {paragraph : Nat}
    (unsampled : ¬ IsSampled image paragraph) : slotAt image paragraph = none := if_neg unsampled

theorem slotAt_eq_none_iff {image : Image} {paragraph : Nat} :
    slotAt image paragraph = none ↔ paragraph = 0 ∨ image.byteAt (16 * paragraph) ≠ 1 := by
  have unsampled : slotAt image paragraph = none ↔ ¬ IsSampled image paragraph := by
    unfold slotAt
    split <;> simp_all
  rw [unsampled, IsSampled]
  tauto

theorem eq_recordAt_of_slotAt {image : Image} {paragraph : Nat} {instrument : Instrument}
    (held : slotAt image paragraph = some instrument) :
    IsSampled image paragraph ∧ instrument = recordAt image paragraph := by
  unfold slotAt at held
  split at held
  · rename_i sampled
    exact ⟨sampled, (Option.some.inj held).symm⟩
  · cases held

namespace Instrument

/-- A record is read exactly if it is whole and signed. -/
theorem ofRecord_eq_ok_iff {image : Image} {paragraph : Nat} {instrument : Instrument} :
    ofRecord image (16 * paragraph) = .ok instrument ↔ 16 * paragraph + 0x50 ≤ image.size ∧
      [image.byteAt (16 * paragraph + 0x4C), image.byteAt (16 * paragraph + 0x4D),
        image.byteAt (16 * paragraph + 0x4E), image.byteAt (16 * paragraph + 0x4F)] =
          sampleSignature ∧ instrument = recordAt image paragraph := by
  have four : (List.range 4).map (fun k => image.byteAt (16 * paragraph + 0x4C + k)) =
      [image.byteAt (16 * paragraph + 0x4C), image.byteAt (16 * paragraph + 0x4D),
        image.byteAt (16 * paragraph + 0x4E), image.byteAt (16 * paragraph + 0x4F)] := rfl
  simp only [ofRecord, bind_eq_ok_iff, Image.text_eq_ok_iff, Image.wide_eq_ok_iff,
    Image.long_eq_ok_iff, Image.byte_eq_ok_iff, Image.slice_eq_ok_byteAt_iff]
  constructor
  · intro h
    obtain ⟨_, ⟨-, rfl⟩, _, ⟨-, rfl⟩, _, ⟨-, rfl⟩, _, ⟨-, rfl⟩, _, ⟨-, rfl⟩, _,
      ⟨complete, rfl⟩, judged⟩ := h
    split at judged
    · rename_i signature
      cases judged
      exact ⟨complete, signature, rfl⟩
    · cases judged
  · intro h
    obtain ⟨complete, signature, rfl⟩ := h
    refine ⟨_, ⟨by omega, rfl⟩, _, ⟨by omega, rfl⟩, _, ⟨by omega, rfl⟩, _, ⟨by omega, rfl⟩, _,
      ⟨by omega, rfl⟩, _, ⟨complete, rfl⟩, ?_⟩
    rw [four, if_pos signature]
    rfl

/-- A slot is read exactly if it is empty or has a record. -/
theorem load_eq_ok_iff {image : Image} {paragraph : Nat} {slot : Option Instrument} :
    load image paragraph = .ok slot ↔
      (paragraph ≠ 0 → ValidRecord image paragraph) ∧ slot = slotAt image paragraph := by
  by_cases empty : paragraph = 0
  · rw [load, if_pos empty, slotAt_of_unsampled fun sampled => sampled.1 empty]
    simp [empty, eq_comm]
  rw [load, if_neg empty, bind_eq_ok_iff]
  simp only [Image.byte_eq_ok_iff, ne_eq, empty, not_false_eq_true, forall_true_left]
  constructor
  · intro h
    obtain ⟨_, ⟨present, rfl⟩, read⟩ := h
    split at read
    · rename_i sampled
      obtain ⟨_, record, rfl⟩ := map_eq_ok_iff.1 read
      obtain ⟨complete, signature, rfl⟩ := ofRecord_eq_ok_iff.1 record
      exact ⟨⟨present, fun _ => complete, fun _ => signature⟩,
        (slotAt_of_sampled ⟨empty, sampled⟩).symm⟩
    · rename_i other
      cases read
      exact ⟨⟨present, fun sampled => absurd sampled other, fun sampled => absurd sampled other⟩,
        (slotAt_of_unsampled fun sampled => other sampled.2).symm⟩
  · intro h
    obtain ⟨⟨present, complete, signature⟩, rfl⟩ := h
    refine ⟨_, ⟨present, rfl⟩, ?_⟩
    by_cases sampled : image.byteAt (16 * paragraph) = sampledType
    · rw [if_pos sampled, slotAt_of_sampled ⟨empty, sampled⟩]
      exact map_eq_ok_iff.2
        ⟨_, ofRecord_eq_ok_iff.2 ⟨complete sampled, signature sampled, rfl⟩, rfl⟩
    · rw [if_neg sampled, slotAt_of_unsampled fun other => sampled other.2]

end Instrument

/-- An image has a valid header, and a record for each instrument. -/
structure ValidContainer (image : Image) : Prop where
  header : ValidHeader image
  records : ∀ k < instrumentCount image, instrumentParagraph image k ≠ 0 →
    ValidRecord image (instrumentParagraph image k)

/-- The slots of all instrument paragraphs. -/
def slots (image : Image) : List (Option Instrument) :=
  (List.range (instrumentCount image)).map fun k => slotAt image (instrumentParagraph image k)

theorem mapM_load_eq_ok_iff {image : Image} {instruments : List (Option Instrument)} :
    ((List.range (instrumentCount image)).map (instrumentParagraph image)).mapM
        (Instrument.load image) = .ok instruments ↔
      (∀ k < instrumentCount image, instrumentParagraph image k ≠ 0 →
        ValidRecord image (instrumentParagraph image k)) ∧ instruments = slots image := by
  rw [List.mapM_map, mapM_range_eq_ok_iff]
  simp only [Function.comp_apply, Instrument.load_eq_ok_iff]
  constructor
  · intro h
    obtain ⟨length, each⟩ := h
    refine ⟨fun k inside => (each k (by omega)).1, ?_⟩
    apply List.ext_getElem
    · simp [slots, length]
    · intro k inside _
      rw [(each k inside).2]
      simp [slots]
  · intro h
    obtain ⟨records, rfl⟩ := h
    refine ⟨by simp [slots], ?_⟩
    intro k inside
    simp only [slots, List.length_map, List.length_range] at inside
    exact ⟨records k inside, by simp [slots]⟩

namespace Tune

/-- A song is read exactly if its container is valid, and then as what the
container holds. -/
theorem parse_eq_ok_iff_container {image : Image} {tune : Tune} :
    parse image = .ok tune ↔ ValidContainer image ∧ tune = headerOf image (slots image) := by
  rw [parse_eq_ok_iff]
  simp only [mapM_load_eq_ok_iff]
  constructor
  · intro h
    obtain ⟨header, _, ⟨records, rfl⟩, read⟩ := h
    exact ⟨⟨header, records⟩, read⟩
  · intro h
    obtain ⟨⟨header, records⟩, read⟩ := h
    exact ⟨header, _, ⟨records, rfl⟩, read⟩

theorem exists_parse_iff {image : Image} :
    (∃ tune, parse image = .ok tune) ↔ ValidContainer image := by
  simp only [parse_eq_ok_iff_container, exists_and_left, exists_eq, and_true]

section

variable (image : Image) (instruments : List (Option Instrument))

theorem patternCount_headerOf :
    (headerOf image instruments).patternCount = ScreamTracker.patternCount image := by
  rw [patternCount, headerOf, List.length_map, List.length_range]

theorem pattern_headerOf {index : Nat} (inside : index < ScreamTracker.patternCount image) :
    (headerOf image instruments).pattern index =
      Pattern.load image (patternParagraph image index) := by
  have stored : (headerOf image instruments).patternParagraphs[index]? =
      some (patternParagraph image index) := by
    simp [headerOf, inside]
  rw [pattern, stored]
  rfl

theorem pattern_headerOf_beyond {index : Nat}
    (beyond : ScreamTracker.patternCount image ≤ index) :
    (headerOf image instruments).pattern index =
      .error (.patternRange index (ScreamTracker.patternCount image)) := by
  have missing : (headerOf image instruments).patternParagraphs[index]? = none := by
    simpa [headerOf] using beyond
  rw [pattern, missing, patternCount_headerOf]

/-- Instruments are counted from one. -/
theorem instrument_headerOf {number : UInt8} (first : 1 ≤ number.toNat)
    (last : number.toNat ≤ instrumentCount image) :
    (headerOf image (slots image)).instrument number =
      slotAt image (instrumentParagraph image (number.toNat - 1)) := by
  have counted : number ≠ 0 := by
    intro zero
    rw [zero] at first
    exact absurd first (by decide)
  have held : (slots image)[number.toNat - 1]? =
      some (slotAt image (instrumentParagraph image (number.toNat - 1))) := by
    have inside : number.toNat - 1 < instrumentCount image := by omega
    simp [slots, inside]
  rw [instrument, if_neg counted]
  show ((slots image)[number.toNat - 1]?).join = _
  rw [held]
  rfl

theorem instrument_headerOf_beyond {number : UInt8}
    (beyond : number = 0 ∨ instrumentCount image < number.toNat) :
    (headerOf image (slots image)).instrument number = none := by
  unfold instrument
  split
  · rfl
  · rename_i counted
    have outside : instrumentCount image ≤ number.toNat - 1 := by
      have := beyond.resolve_left counted
      omega
    have missing : (slots image)[number.toNat - 1]? = none := by
      simpa [slots] using outside
    show ((slots image)[number.toNat - 1]?).join = none
    rw [missing]
    rfl

end

end Tune

/-- An instrument is what the record at a paragraph says. -/
structure Describes (image : Image) (paragraph : Nat) (instrument : Instrument) : Prop where
  length : instrument.length = image.longAt (16 * paragraph + 0x10)
  defaultVolume : instrument.defaultVolume = image.byteAt (16 * paragraph + 0x1C)
  sampleOffset : instrument.sampleOffset =
    16 * (65536 * (image.byteAt (16 * paragraph + 0x0D)).toNat +
      image.wordAt (16 * paragraph + 0x0E))
  name : instrument.name =
    Text.field ((List.range 28).map fun k => image.byteAt (16 * paragraph + 0x30 + k))
  fileName : instrument.fileName =
    Text.field ((List.range 12).map fun k => image.byteAt (16 * paragraph + 0x01 + k))

/-- A song answers from the tables of its image: the orders behind the header, then
the instrument paragraphs, then the pattern paragraphs, and last the pan
positions. -/
structure AnswersFrom (image : Image) (tune : Tune) : Prop where
  orders : tune.orders = (List.range (orderCount image)).map fun k => image.byteAt (0x60 + k)
  pattern : ∀ index < patternCount image, tune.pattern index =
    Pattern.load image (image.wordAt
      (0x60 + orderCount image + 2 * instrumentCount image + 2 * index))
  patternBeyond : ∀ index ≥ patternCount image,
    tune.pattern index = .error (.patternRange index (patternCount image))
  unsampled : ∀ number : UInt8, 1 ≤ number.toNat → number.toNat ≤ instrumentCount image →
    (tune.instrument number = none ↔
      image.wordAt (0x60 + orderCount image + 2 * (number.toNat - 1)) = 0 ∨
      image.byteAt (16 * image.wordAt (0x60 + orderCount image + 2 * (number.toNat - 1))) ≠ 1)
  sampled : ∀ number : UInt8, 1 ≤ number.toNat → number.toNat ≤ instrumentCount image →
    ∀ instrument, tune.instrument number = some instrument →
      Describes image (image.wordAt (0x60 + orderCount image + 2 * (number.toNat - 1))) instrument
  instrumentBeyond : ∀ number : UInt8, number = 0 ∨ instrumentCount image < number.toNat →
    tune.instrument number = none
  speed : tune.speed = image.byteAt 0x31
  pans : ∀ c, tune.pans.get c = panAt image c

theorem answersFrom_headerOf (image : Image) :
    AnswersFrom image (headerOf image (slots image)) where
  orders := rfl
  pattern _ inside := Tune.pattern_headerOf image (slots image) inside
  patternBeyond _ beyond := Tune.pattern_headerOf_beyond image (slots image) beyond
  unsampled number first last := by
    rw [Tune.instrument_headerOf image first last, slotAt_eq_none_iff]
    rfl
  sampled number first last instrument held := by
    rw [Tune.instrument_headerOf image first last] at held
    obtain ⟨-, rfl⟩ := eq_recordAt_of_slotAt held
    exact ⟨rfl, rfl, rfl, rfl, rfl⟩
  instrumentBeyond _ beyond := Tune.instrument_headerOf_beyond image beyond
  speed := rfl
  pans c := PerChannel.get_ofFn _ c

/-- Exactly the valid containers are read as songs, and a song answers from the
tables of its image. Whatever else is refused is malformed, and no compilation
gets behind that. -/
theorem parse_accepts_valid_containers (image : Image) :
    ((∃ tune, Tune.parse image = .ok tune) ↔ ValidContainer image) ∧
    (¬ ValidContainer image → ∃ cause, Tune.parse image = .error cause ∧
      ∀ o name, (compile o .screamTracker image name).outcome = .error (.malformed cause)) ∧
    ∀ tune, Tune.parse image = .ok tune → AnswersFrom image tune := by
  refine ⟨Tune.exists_parse_iff, ?_, ?_⟩
  · intro invalid
    obtain ⟨cause, refused⟩ := exists_error_iff.2 fun read => invalid (Tune.exists_parse_iff.1 read)
    refine ⟨cause, refused, fun o name => ?_⟩
    rw [compile_outcome_tune, refused]
    rfl
  · intro tune read
    obtain ⟨-, rfl⟩ := Tune.parse_eq_ok_iff_container.1 read
    exact answersFrom_headerOf image

/-- The image of a song with an empty slot, one with a synthesizer instrument whose
record is the last byte of the image, and one with a sampled instrument. -/
def threeSlots : Image := Array.mk <|
  List.replicate 28 0 ++ [nameMarker, 0, 0, 0, 1, 0, 3, 0, 1, 0, 0, 0, 0, 0, 0, 0] ++
    songSignature ++ [0, 6, playerTempo] ++ List.replicate 45 0 ++
    [5, 0, 0, 12, 0, 7, 0, 0, 0] ++ List.replicate 7 0 ++
    [sampledType] ++ List.replicate 12 0 ++ [1, 2, 3, 64, 0, 0, 0] ++ List.replicate 8 0 ++
    [40] ++ List.replicate 47 0 ++ sampleSignature ++ [2]

theorem parse_threeSlots_accepts_valid_containers :
    (∃ tune, Tune.parse threeSlots = .ok tune ∧ ValidContainer threeSlots ∧
      tune.instrument 1 = none ∧ tune.instrument 2 = none ∧
      tune.instrument 3 = some ⟨"", "", 40, 64, 16 * 0x010302⟩ ∧
      AnswersFrom threeSlots tune) ∧
    ¬ ValidContainer threeSlots.pop ∧ Tune.parse threeSlots.pop = .error (.truncatedRead 1 192) ∧
      ∃ cause, Tune.parse threeSlots.pop = .error cause ∧ ∀ o name,
        (compile o .screamTracker threeSlots.pop name).outcome = .error (.malformed cause) := by
  have slots : (Tune.parse threeSlots).toOption.map (fun tune =>
      [tune.instrument 1, tune.instrument 2, tune.instrument 3]) =
        some [none, none, some ⟨"", "", 40, 64, 16 * 0x010302⟩] := by decide +kernel
  have refused : Tune.parse threeSlots.pop = .error (.truncatedRead 1 192) := by decide +kernel
  obtain ⟨accepted, -, answers⟩ := parse_accepts_valid_containers threeSlots
  obtain ⟨accepted', malformed, -⟩ := parse_accepts_valid_containers threeSlots.pop
  constructor
  · cases read : Tune.parse threeSlots with
    | error cause =>
        rw [read] at slots
        cases slots
    | ok tune =>
        rw [read] at slots
        have held := Option.some.inj slots
        simp only [List.cons.injEq, and_true] at held
        exact ⟨tune, rfl, accepted.1 ⟨tune, read⟩, held.1, held.2.1, held.2.2, answers tune read⟩
  · have invalid : ¬ ValidContainer threeSlots.pop := by
      intro valid
      obtain ⟨tune, read⟩ := accepted'.2 valid
      rw [refused] at read
      cases read
    exact ⟨invalid, refused, malformed invalid⟩

end Chiptune.ScreamTracker

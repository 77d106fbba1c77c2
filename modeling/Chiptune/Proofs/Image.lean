import Chiptune.Image
import Chiptune.Proofs.Outcome

/-!
# Bytes of an image

A byte has 256 values, so a decidable property of one byte can be settled by a
table. The bit layouts of cells and commands rest on such tables.

Every reader of an image is told by the bytes at the offsets that it reads: it
has a value exactly if those bytes exist.
-/

namespace Chiptune

/-- A property of a byte holds if it holds of the 256 entries of its table. -/
theorem forall_byte {P : UInt8 → Prop} (table : ∀ i : Fin 256, P (UInt8.ofFin i)) (b : UInt8) :
    P b := by
  simpa using table b.toFin

theorem or_and_mask (x y mask : UInt8) : (x ||| y) &&& mask = (x &&& mask) ||| (y &&& mask) :=
  UInt8.toBitVec_inj.1 BitVec.and_or_distrib_right

namespace Image

theorem slice_eq_ok_extract_iff {image : Image} {offset count : Nat} {bytes : List UInt8} :
    image.slice offset count = .ok bytes ↔ offset + count ≤ image.size ∧
      bytes = (image.extract offset (offset + count)).toList := by
  rw [slice_eq_ok_iff, Array.toList_extract, List.extract_eq_take_drop, Nat.add_sub_cancel_left]

theorem extract_cons {image : Image} {offset stop : Nat} (h : offset < stop)
    (inside : stop ≤ image.size) : (image.extract offset stop).toList =
      image[offset] :: (image.extract (offset + 1) stop).toList := by
  simp only [Array.toList_extract, List.extract_eq_take_drop]
  rw [List.drop_eq_getElem_cons (by simp; omega),
    show stop - offset = stop - (offset + 1) + 1 by omega]
  rfl

/-- The byte at an offset, zero behind the end of the image. -/
def byteAt (image : Image) (offset : Nat) : UInt8 := image.getD offset 0

theorem slice_eq_ok_byteAt_iff {image : Image} {offset count : Nat} {bytes : List UInt8} :
    image.slice offset count = .ok bytes ↔ offset + count ≤ image.size ∧
      bytes = (List.range count).map fun k => image.byteAt (offset + k) := by
  rw [slice_eq_ok_iff]
  refine and_congr_right fun inside => ?_
  have same : (image.toList.drop offset).take count =
      (List.range count).map fun k => image.byteAt (offset + k) := by
    apply List.ext_getElem
    · simp
      omega
    · intro k hk hk'
      rw [List.length_map, List.length_range] at hk'
      have here : offset + k < image.size := by omega
      simp [byteAt, here]
  rw [same]

theorem extract_eq_map_byteAt {image : Image} {offset count : Nat}
    (inside : offset + count ≤ image.size) : (image.extract offset (offset + count)).toList =
      (List.range count).map fun k => image.byteAt (offset + k) :=
  (slice_eq_ok_byteAt_iff.1 (slice_eq_ok_extract_iff.2 ⟨inside, rfl⟩)).2

/-- A value read from a range is that of its bytes. -/
theorem map_slice_eq_ok_iff {α : Type} {f : List UInt8 → α} {image : Image} {offset count : Nat}
    {a : α} : (image.slice offset count).map f = .ok a ↔ offset + count ≤ image.size ∧
      a = f ((List.range count).map fun k => image.byteAt (offset + k)) := by
  simp only [map_eq_ok_iff, slice_eq_ok_byteAt_iff]
  constructor
  · intro h
    obtain ⟨_, ⟨inside, rfl⟩, rfl⟩ := h
    exact ⟨inside, rfl⟩
  · intro h
    obtain ⟨inside, rfl⟩ := h
    exact ⟨_, ⟨inside, rfl⟩, rfl⟩

theorem byte_eq_ok_iff {image : Image} {offset : Nat} {b : UInt8} :
    image.byte offset = .ok b ↔ offset + 1 ≤ image.size ∧ b = image.byteAt offset :=
  map_slice_eq_ok_iff

theorem text_eq_ok_iff {image : Image} {offset count : Nat} {text : String} :
    image.text offset count = .ok text ↔ offset + count ≤ image.size ∧
      text = Text.field ((List.range count).map fun k => image.byteAt (offset + k)) :=
  map_slice_eq_ok_iff

/-- The 16-bit number at an offset, if both its bytes exist. -/
def wordAt (image : Image) (offset : Nat) : Nat :=
  (image.byteAt offset).toNat + 256 * (image.byteAt (offset + 1)).toNat

theorem word_eq_ok_wordAt_iff {image : Image} {offset n : Nat} :
    image.word offset = .ok n ↔ offset + 2 ≤ image.size ∧ n = image.wordAt offset :=
  map_slice_eq_ok_iff

/-- The 32-bit number at an offset, if its four bytes exist. -/
def longAt (image : Image) (offset : Nat) : Nat :=
  image.wordAt offset + 65536 * image.wordAt (offset + 2)

theorem long_eq_ok_iff {image : Image} {offset n : Nat} :
    image.long offset = .ok n ↔ offset + 4 ≤ image.size ∧ n = image.longAt offset := by
  have four : littleEndian ((List.range 4).map fun k => image.byteAt (offset + k)) =
      image.longAt offset := by
    show (image.byteAt offset).toNat + 256 * ((image.byteAt (offset + 1)).toNat +
      256 * ((image.byteAt (offset + 2)).toNat + 256 * ((image.byteAt (offset + 3)).toNat +
        256 * 0))) = _
    have last : offset + 2 + 1 = offset + 3 := rfl
    rw [longAt, wordAt, wordAt, last]
    omega
  rw [← four]
  exact map_slice_eq_ok_iff

/-- The 24-bit number at an offset, whose high byte comes before its low word. -/
def wideAt (image : Image) (offset : Nat) : Nat :=
  65536 * (image.byteAt offset).toNat + image.wordAt (offset + 1)

theorem wide_eq_ok_iff {image : Image} {offset n : Nat} :
    image.wide offset = .ok n ↔ offset + 3 ≤ image.size ∧ n = image.wideAt offset := by
  unfold wide
  cases high : image.byte offset with
  | error cause =>
      have outside : ¬ offset + 1 ≤ image.size := by
        intro inside
        rw [byte_eq_ok_iff.2 ⟨inside, rfl⟩] at high
        cases high
      simp only [reduceCtorEq, false_iff, not_and]
      omega
  | ok high' =>
      obtain ⟨-, rfl⟩ := byte_eq_ok_iff.1 high
      simp only [map_eq_ok_iff, word_eq_ok_wordAt_iff]
      constructor
      · intro h
        obtain ⟨_, ⟨inside, rfl⟩, rfl⟩ := h
        exact ⟨by omega, Nat.add_comm _ _⟩
      · intro h
        obtain ⟨inside, rfl⟩ := h
        exact ⟨_, ⟨by omega, rfl⟩, Nat.add_comm _ _⟩

/-- A table of words exists if it ends inside the image; an empty one has no
bytes at all, so its place must be known to lie in the image. -/
theorem words_eq_ok_iff {image : Image} {offset count : Nat} {words : List Nat}
    (start : offset ≤ image.size) : image.words offset count = .ok words ↔
      offset + 2 * count ≤ image.size ∧
        words = (List.range count).map fun k => image.wordAt (offset + 2 * k) := by
  simp only [Image.words, mapM_range_eq_ok_iff, word_eq_ok_wordAt_iff]
  constructor
  · intro h
    obtain ⟨rfl, each⟩ := h
    constructor
    · cases last : words.length with
      | zero => omega
      | succ n =>
          have inside := (each n (by omega)).1
          omega
    · apply List.ext_getElem
      · simp
      · intro k hk _
        rw [(each k hk).2]
        simp
  · intro h
    obtain ⟨inside, rfl⟩ := h
    refine ⟨by simp, ?_⟩
    intro k hk
    rw [List.length_map, List.length_range] at hk
    exact ⟨by omega, by simp⟩

/-- A word is two bytes, the less significant one first. -/
theorem word_eq_ok_iff {image : Image} {offset n : Nat} :
    image.word offset = .ok n ↔ ∃ low high, image[offset]? = some low ∧
      image[offset + 1]? = some high ∧ n = low.toNat + 256 * high.toNat := by
  simp only [word, map_eq_ok_iff, slice_eq_ok_extract_iff]
  constructor
  · intro h
    obtain ⟨_, ⟨inside, rfl⟩, rfl⟩ := h
    refine ⟨image[offset], image[offset + 1], by simp, by simp, ?_⟩
    rw [extract_cons (by omega) inside, extract_cons (by omega) inside]
    simp [littleEndian]
  · intro h
    obtain ⟨low, high, hl, hh, rfl⟩ := h
    obtain ⟨-, rfl⟩ := Array.getElem?_eq_some_iff.1 hl
    obtain ⟨inside, rfl⟩ := Array.getElem?_eq_some_iff.1 hh
    refine ⟨_, ⟨inside, rfl⟩, ?_⟩
    rw [extract_cons (by omega) inside, extract_cons (by omega) inside]
    simp [littleEndian]

end Image

end Chiptune

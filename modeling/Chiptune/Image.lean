import Chiptune.Malformed
import Chiptune.Text.Field

/-!
# Module images

An image is the whole content of a module file. Every field of a container has
a known offset, so reading is by position: `slice` gives the bytes of a range,
and the other readers interpret such a range. Numbers are little-endian. A
range that starts behind the end is a different defect from one that only
reaches behind it.
-/

namespace Chiptune

abbrev Image := Array UInt8

/-- The number spelled by bytes, least significant first. -/
def littleEndian : List UInt8 → Nat
  | [] => 0
  | b :: rest => b.toNat + 256 * littleEndian rest

namespace Image

/-- The `count` bytes at `offset`. -/
def slice (image : Image) (offset count : Nat) : Except Malformed (List UInt8) :=
  if image.size < offset then .error (.offsetPastEnd offset image.size)
  else if image.size < offset + count then .error (.truncatedRead count offset)
  else .ok (image.extract offset (offset + count)).toList

/-- The byte at `offset`. -/
def byte (image : Image) (offset : Nat) : Except Malformed UInt8 :=
  (image.slice offset 1).map (·.headD 0)

/-- The 16-bit number at `offset`. -/
def word (image : Image) (offset : Nat) : Except Malformed Nat :=
  (image.slice offset 2).map littleEndian

/-- The 32-bit number at `offset`. -/
def long (image : Image) (offset : Nat) : Except Malformed Nat :=
  (image.slice offset 4).map littleEndian

/-- The 24-bit number at `offset`, whose high byte comes before its low word. -/
def wide (image : Image) (offset : Nat) : Except Malformed Nat :=
  match image.byte offset with
  | .error cause => .error cause
  | .ok high => (image.word (offset + 1)).map (· + 65536 * high.toNat)

/-- The text field of `count` bytes at `offset`. -/
def text (image : Image) (offset count : Nat) : Except Malformed String :=
  (image.slice offset count).map Text.field

/-- `count` consecutive 16-bit numbers from `offset`. -/
def words (image : Image) (offset count : Nat) : Except Malformed (List Nat) :=
  (List.range count).mapM fun k => image.word (offset + 2 * k)

/-- A slice exists exactly when its range lies inside the image. -/
theorem slice_eq_ok_iff {image : Image} {offset count : Nat} {bytes : List UInt8} :
    image.slice offset count = .ok bytes ↔
      offset + count ≤ image.size ∧ bytes = (image.toList.drop offset).take count := by
  unfold slice
  split
  · simp; omega
  split
  · simp; omega
  · rename_i h₁ h₂
    simp only [Except.ok.injEq, Array.toList_extract, List.extract_eq_take_drop,
      Nat.add_sub_cancel_left]
    exact ⟨fun h => ⟨by omega, h.symm⟩, fun h => h.2.symm⟩

theorem slice_length {image : Image} {offset count : Nat} {bytes : List UInt8}
    (h : image.slice offset count = .ok bytes) : bytes.length = count := by
  obtain ⟨hle, rfl⟩ := slice_eq_ok_iff.1 h
  simp
  omega

end Image

end Chiptune

import Chiptune.Proofs.Image
import Chiptune.Protracker.Tune

/-!
# Where a Protracker song keeps its bytes

Everything in these songs has a fixed place: the length at 950, the order table
at 952, the signature at 1080, and each pattern in 1024 bytes from 1084 on. A
song is read exactly if it has all its header and a valid one; a row is read
exactly if its sixteen bytes exist.
-/

namespace Chiptune.Protracker

/-- The number of orders that an image announces. -/
def songLength (image : Image) : Nat := (image.byteAt 950).toNat

/-- The pattern of an order. -/
def orderAt (image : Image) (k : Nat) : Nat := (image.byteAt (952 + k)).toNat

/-- The header of a song is complete and valid. -/
structure ValidHeader (image : Image) : Prop where
  complete : 1084 ≤ image.size
  length : songLength image ≤ 128
  signature : [image.byteAt 1080, image.byteAt 1081, image.byteAt 1082, image.byteAt 1083] =
    songSignature

/-- What is read from the header of a song. -/
def headerOf (image : Image) : Tune where
  image := image
  name := Text.field ((List.range 20).map fun k => image.byteAt (0 + k))
  length := songLength image
  table := (List.range 128).map fun k => image.byteAt (952 + k)

/-- The cell of a channel in a row, from its four bytes. -/
def cellAt (image : Image) (pattern row : Nat) (c : Channel) : Cell :=
  let offset := rowOffset pattern row + 4 * c.index
  .ofBytes (image.byteAt offset) (image.byteAt (offset + 1)) (image.byteAt (offset + 2))
    (image.byteAt (offset + 3))

/-- All rows of a pattern are stored exactly if its last byte is. -/
theorem rows_stored_iff {size pattern : Nat} :
    (∀ row < rowsPerPattern, rowOffset pattern row + 16 ≤ size) ↔
      1084 + 1024 * (pattern + 1) ≤ size := by
  simp only [rowsPerPattern, rowOffset, patternsOffset]
  constructor
  · intro h
    have last := h 63 (by decide)
    grind
  · intro h row inside
    grind

namespace Tune

theorem parse_eq_ok_iff {image : Image} {tune : Tune} :
    parse image = .ok tune ↔ ValidHeader image ∧ tune = headerOf image := by
  have four : (List.range 4).map (fun k => image.byteAt (signatureOffset + k)) =
    [image.byteAt 1080, image.byteAt 1081, image.byteAt 1082, image.byteAt 1083] := rfl
  simp only [parse, Image.text, Image.byte, bind_eq_ok_iff, map_eq_ok_iff,
    Image.slice_eq_ok_byteAt_iff]
  constructor
  · intro h
    obtain ⟨_, ⟨_, ⟨-, rfl⟩, rfl⟩, _, -, _, ⟨_, ⟨-, rfl⟩, rfl⟩, h⟩ := h
    split at h
    · cases h
    · rename_i length
      simp only [bind_eq_ok_iff, Image.slice_eq_ok_byteAt_iff] at h
      obtain ⟨_, -, _, ⟨-, rfl⟩, _, ⟨complete, rfl⟩, h⟩ := h
      split at h
      · rename_i signature
        rw [four] at signature
        cases h
        exact ⟨⟨complete, Nat.le_of_not_lt length, signature⟩, rfl⟩
      · cases h
  · intro h
    obtain ⟨⟨complete, length, signature⟩, rfl⟩ := h
    refine ⟨_, ⟨_, ⟨by omega, rfl⟩, rfl⟩, _, ⟨by omega, rfl⟩, _, ⟨_, ⟨by omega, rfl⟩, rfl⟩, ?_⟩
    refine (if_neg (Nat.not_lt.2 length)).trans ?_
    simp only [bind_eq_ok_iff, Image.slice_eq_ok_byteAt_iff]
    refine ⟨_, ⟨by omega, rfl⟩, _, ⟨by simp only [orderSlots]; omega, rfl⟩, _,
      ⟨by simp only [signatureOffset]; omega, rfl⟩, ?_⟩
    rw [four, if_pos signature]
    rfl

theorem orders_headerOf {image : Image} (valid : ValidHeader image) :
    (headerOf image).orders = (List.range (songLength image)).map (orderAt image) := by
  rw [orders, headerOf, ← List.map_take, List.take_range, Nat.min_eq_left valid.length,
    List.map_map]
  rfl

theorem mem_orders_headerOf {image : Image} (valid : ValidHeader image) {p : Nat} :
    p ∈ (headerOf image).orders ↔ ∃ k < songLength image, orderAt image k = p := by
  rw [orders_headerOf valid, List.mem_map]
  simp only [List.mem_range]

theorem row_eq_ok_iff {tune : Tune} {pattern row : Nat} {cells : PerChannel Cell} :
    tune.row pattern row = .ok cells ↔ rowOffset pattern row + 16 ≤ tune.image.size ∧
      cells = .ofFn (cellAt tune.image pattern row) := by
  have sixteen : ∀ offset, rowOfBytes
      ((List.range 4).map (fun k => tune.image.byteAt (offset + k)) ++
        (List.range 4).map (fun k => tune.image.byteAt (offset + 4 + k)) ++
        (List.range 4).map (fun k => tune.image.byteAt (offset + 8 + k)) ++
        (List.range 4).map (fun k => tune.image.byteAt (offset + 12 + k))) =
      .ofFn fun c => .ofBytes (tune.image.byteAt (offset + 4 * c.index))
        (tune.image.byteAt (offset + 4 * c.index + 1))
        (tune.image.byteAt (offset + 4 * c.index + 2))
        (tune.image.byteAt (offset + 4 * c.index + 3)) := fun _ => rfl
  simp only [Tune.row, bind_eq_ok_iff, pure_eq_ok, Image.slice_eq_ok_byteAt_iff]
  constructor
  · intro h
    obtain ⟨_, ⟨-, rfl⟩, _, ⟨-, rfl⟩, _, ⟨-, rfl⟩, _, ⟨inside, rfl⟩, ⟨⟩⟩ := h
    exact ⟨by omega, sixteen _⟩
  · intro h
    obtain ⟨inside, rfl⟩ := h
    exact ⟨_, ⟨by omega, rfl⟩, _, ⟨by omega, rfl⟩, _, ⟨by omega, rfl⟩, _, ⟨by omega, rfl⟩,
      congrArg _ (sixteen _)⟩

end Tune

end Chiptune.Protracker

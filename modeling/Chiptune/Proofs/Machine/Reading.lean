import Chiptune.Proofs.Image
import Chiptune.Proofs.Machine.Arithmetic

/-!
# Reading an image, step by step

An image is read from a position that moves behind everything that is taken. The
only sum is that of the position and the number of bytes to take; the reader
checks it itself, and what does not fit 64 bits counts as past the end. In an
image of less than 2⁶³ bytes this is no restriction, so that reading has the
outcome of reading by offset, and the position is where the range ends.
-/

namespace Chiptune.Machine

open Run

/-- The bytes of an image from one offset to another. -/
def extract (image : Image) (start stop : Nat) : Option (List UInt8) :=
  if start ≤ stop ∧ stop ≤ image.size then some (image.extract start stop).toList else none

/-- Move to an offset, the end of the image included. -/
def seek (image : Image) (offset : Nat) : Run Malformed Nat :=
  if image.size < offset then throw (.offsetPastEnd offset image.size) else pure offset

/-- The next bytes of an image, and the position behind them. -/
def take (image : Image) (position count : Nat) : Run Malformed (List UInt8 × Nat) :=
  match (add 64 position count).filter (· ≤ image.size) with
  | none => throw (.truncatedRead count position)
  | some stop => do
    let bytes ← step (extract image position stop)
    pure (bytes, stop)

section

variable {α : Type}

/-- The value of the next bytes, and the position behind them. -/
def read (image : Image) (position count : Nat) (value : List UInt8 → Option α) :
    Run Malformed (α × Nat) := do
  let (bytes, position) ← take image position count
  let a ← step (value bytes)
  pure (a, position)

def readAt (image : Image) (offset count : Nat) (value : List UInt8 → Option α) :
    Run Malformed (α × Nat) := do
  let position ← seek image offset
  read image position count value

end

def byteOf (bytes : List UInt8) : Option UInt8 := nth bytes 0

def wordOf (bytes : List UInt8) : Option Nat := do
  let b₀ ← nth bytes 0
  let b₁ ← nth bytes 1
  pure (littleEndian [b₀, b₁])

def longOf (bytes : List UInt8) : Option Nat := do
  let b₀ ← nth bytes 0
  let b₁ ← nth bytes 1
  let b₂ ← nth bytes 2
  let b₃ ← nth bytes 3
  pure (littleEndian [b₀, b₁, b₂, b₃])

/-- The text before the first zero byte. -/
def textOf (bytes : List UInt8) : Option String :=
  (slice bytes 0 (bytes.findIdx (· == 0))).map fun shown =>
    String.ofList (Text.trimEnd (Text.Utf8.decode shown))

/-- The 24-bit number at an offset: its high byte, then its low word. -/
def wideAt (image : Image) (offset : Nat) : Run Malformed (Nat × Nat) := do
  let (high, position) ← readAt image offset 1 byteOf
  let (low, position) ← read image position 2 wordOf
  let shifted ← step (shiftLeft 32 high.toNat 16)
  pure (low ||| shifted, position)

def words (image : Image) : Nat → Nat → Run Malformed (List Nat × Nat)
  | position, 0 => pure ([], position)
  | position, count + 1 => do
    let (first, position) ← read image position 2 wordOf
    let (rest, position) ← words image position count
    pure (first :: rest, position)

theorem byteOf_eq {bytes : List UInt8} (length : bytes.length = 1) :
    byteOf bytes = some (bytes.headD 0) := by
  obtain ⟨b, rfl⟩ := List.length_eq_one_iff.1 length
  rfl

theorem wordOf_eq {bytes : List UInt8} (length : bytes.length = 2) :
    wordOf bytes = some (littleEndian bytes) := by
  obtain ⟨b₀, b₁, rfl⟩ := List.length_eq_two.1 length
  rfl

theorem longOf_eq {bytes : List UInt8} (length : bytes.length = 4) :
    longOf bytes = some (littleEndian bytes) := by
  match bytes, length with
  | [_, _, _, _], _ => rfl

/-- The high byte of a 24-bit number is moved above its word without a bit lost. -/
theorem shiftLeft_above_word (high : UInt8) :
    shiftLeft 32 high.toNat 16 = some (high.toNat * 2 ^ 16) := by
  have := high.toNat_lt
  exact shiftLeft_eq_some (by decide) (by omega)

theorem word_or_above {low : Nat} (word : low < 2 ^ 16) (high : UInt8) :
    low ||| high.toNat * 2 ^ 16 = low + 65536 * high.toNat := by
  rw [or_mul_two_pow word]
  omega

theorem textOf_eq (bytes : List UInt8) : textOf bytes = some (Text.field bytes) := by
  have shown : bytes.take (bytes.findIdx (· == 0)) = Text.fieldBytes bytes := by
    have zero : (fun b : UInt8 => !(b != 0)) = (· == 0) := by
      funext b
      rw [bne, Bool.not_not]
    rw [Text.fieldBytes, List.takeWhile_eq_take_findIdx_not, zero]
  rw [textOf, slice_eq_some (Nat.zero_le _) List.findIdx_le_length, List.drop_zero, Nat.sub_zero,
    shown]
  rfl

section

variable {image : Image}

theorem le_size_of_slice {offset count : Nat} {bytes : List UInt8}
    (taken : image.slice offset count = .ok bytes) : offset + count ≤ image.size :=
  (Image.slice_eq_ok_iff.1 taken).1

theorem wordAt_lt (image : Image) (offset : Nat) : image.wordAt offset < 2 ^ 16 := by
  have low := (image.byteAt offset).toNat_lt
  have high := (image.byteAt (offset + 1)).toNat_lt
  unfold Image.wordAt
  omega

theorem word_lt {offset n : Nat} (taken : image.word offset = .ok n) : n < 2 ^ 16 := by
  obtain ⟨-, rfl⟩ := Image.word_eq_ok_wordAt_iff.1 taken
  exact wordAt_lt image offset

theorem wideAt_lt (image : Image) (offset : Nat) : image.wideAt offset < 2 ^ 24 := by
  have high := (image.byteAt offset).toNat_lt
  have low := wordAt_lt image (offset + 1)
  unfold Image.wideAt
  omega

theorem wide_lt {offset n : Nat} (taken : image.wide offset = .ok n) : n < 2 ^ 24 := by
  obtain ⟨-, rfl⟩ := Image.wide_eq_ok_iff.1 taken
  exact wideAt_lt image offset

theorem longAt_lt (image : Image) (offset : Nat) : image.longAt offset < 2 ^ 32 := by
  have low := wordAt_lt image offset
  have high := wordAt_lt image (offset + 2)
  unfold Image.longAt
  omega

/-- The offset of a paragraph has a width to spare, even that of a 24-bit one. -/
theorem mul_paragraph {paragraph : Nat} (narrow : paragraph < 2 ^ 24) :
    mul 64 paragraph 16 = some (16 * paragraph) := by
  rw [mul_eq_some (by omega), Nat.mul_comm]

/-- The entries of a table are its first one and those behind it. -/
theorem words_succ (offset count : Nat) : image.words offset (count + 1) =
    image.word offset >>= fun first =>
      image.words (offset + 2) count >>= fun rest => .ok (first :: rest) := by
  have behind : (fun k => image.word (offset + 2 * (k + 1))) =
      fun k => image.word (offset + 2 + 2 * k) := by
    funext k
    congr 1
    omega
  rw [Image.words, List.range_succ_eq_map, List.mapM_cons, List.mapM_map, Nat.mul_zero,
    Nat.add_zero]
  exact congrArg (fun f => image.word offset >>= fun first =>
    (List.range count).mapM f >>= fun rest => .ok (first :: rest)) behind

end

section

variable {α : Type} {image : Image} (small : image.size < 2 ^ 63)

include small

theorem take_eq {position : Nat} (inside : position ≤ image.size) (count : Nat) :
    take image position count =
      of ((image.slice position count).map fun bytes => (bytes, position + count)) := by
  unfold take Image.slice
  rw [if_neg (Nat.not_lt.2 inside)]
  by_cases beyond : image.size < position + count
  · have past : (add 64 position count).filter (· ≤ image.size) = none := by
      unfold add fit
      split
      · simpa using beyond
      · rfl
    rw [if_pos beyond, past]
    rfl
  · have sum : (add 64 position count).filter (· ≤ image.size) = some (position + count) := by
      rw [add_eq_some (by omega)]
      simpa using beyond
    have bytes : extract image position (position + count) =
        some (image.extract position (position + count)).toList :=
      if_pos ⟨Nat.le_add_right _ _, Nat.le_of_not_lt beyond⟩
    rw [if_neg beyond, sum]
    simp only [bytes, step_bind]
    rfl

theorem read_eq {position count : Nat} (inside : position ≤ image.size)
    {value : List UInt8 → Option α} {meaning : List UInt8 → α}
    (means : ∀ bytes, bytes.length = count → value bytes = some (meaning bytes)) :
    read image position count value =
      of (((image.slice position count).map meaning).map fun a => (a, position + count)) := by
  unfold read
  rw [take_eq small inside]
  cases taken : image.slice position count with
  | error cause => rfl
  | ok bytes =>
      show (step (value bytes) >>= fun a => pure (a, position + count)) = _
      rw [means bytes (Image.slice_length taken)]
      rfl

theorem readAt_eq (offset : Nat) {count : Nat} {value : List UInt8 → Option α}
    {meaning : List UInt8 → α}
    (means : ∀ bytes, bytes.length = count → value bytes = some (meaning bytes)) :
    readAt image offset count value =
      of (((image.slice offset count).map meaning).map fun a => (a, offset + count)) := by
  unfold readAt seek
  by_cases past : image.size < offset
  · rw [if_pos past, Image.slice, if_pos past]
    rfl
  · rw [if_neg past]
    exact read_eq small (Nat.le_of_not_lt past) means

theorem read_byte {position : Nat} (inside : position ≤ image.size) :
    read image position 1 byteOf = of ((image.byte position).map fun b => (b, position + 1)) :=
  read_eq small inside fun _ => byteOf_eq

theorem read_word {position : Nat} (inside : position ≤ image.size) :
    read image position 2 wordOf = of ((image.word position).map fun n => (n, position + 2)) :=
  read_eq small inside fun _ => wordOf_eq

theorem read_bytes {position : Nat} (inside : position ≤ image.size) (count : Nat) :
    read image position count some =
      of ((image.slice position count).map fun bytes => (bytes, position + count)) := by
  rw [read_eq small inside fun _ _ => rfl]
  cases image.slice position count <;> rfl

theorem readAt_byte (offset : Nat) :
    readAt image offset 1 byteOf = of ((image.byte offset).map fun b => (b, offset + 1)) :=
  readAt_eq small offset fun _ => byteOf_eq

theorem readAt_word (offset : Nat) :
    readAt image offset 2 wordOf = of ((image.word offset).map fun n => (n, offset + 2)) :=
  readAt_eq small offset fun _ => wordOf_eq

theorem readAt_bytes (offset count : Nat) : readAt image offset count some =
    of ((image.slice offset count).map fun bytes => (bytes, offset + count)) := by
  rw [readAt_eq small offset fun _ _ => rfl]
  cases image.slice offset count <;> rfl

theorem readAt_text (offset count : Nat) : readAt image offset count textOf =
    of ((image.text offset count).map fun text => (text, offset + count)) :=
  readAt_eq small offset fun bytes _ => textOf_eq bytes

theorem wideAt_eq (offset : Nat) :
    wideAt image offset = of ((image.wide offset).map fun n => (n, offset + 3)) := by
  have wide : image.wide offset = image.byte offset >>= fun high =>
      (image.word (offset + 1)).map (· + 65536 * high.toNat) := by
    unfold Image.wide
    cases image.byte offset <;> rfl
  unfold wideAt
  rw [readAt_byte small, wide, map_bind]
  refine of_map_bind fun high taken => ?_
  simp only [read_word small (Image.byte_eq_ok_iff.1 taken).1]
  cases low : image.word (offset + 1) with
  | error cause => rfl
  | ok low' =>
      simp only [Except.map, of_ok, pure_bind, shiftLeft_above_word, step_bind,
        word_or_above (word_lt low)]

/-- A table is read entry by entry, each from behind the one before it. -/
theorem words_eq {position : Nat} (inside : position ≤ image.size) (count : Nat) :
    words image position count =
      of ((image.words position count).map fun ns => (ns, position + 2 * count)) := by
  induction count generalizing position with
  | zero => rfl
  | succ count ih =>
      rw [words, words_succ, map_bind, read_word small inside]
      refine of_map_bind fun first taken => ?_
      simp only [ih (Image.word_eq_ok_wordAt_iff.1 taken).1, map_bind]
      refine of_map_bind fun rest _ => ?_
      have stop : position + 2 + 2 * count = position + 2 * (count + 1) := by omega
      rw [stop]
      rfl

end

end Chiptune.Machine

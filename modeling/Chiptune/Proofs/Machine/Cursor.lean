import Chiptune.Proofs.Cursor
import Chiptune.Proofs.Machine.Reading

/-!
# A cursor, step by step

A read adds the count that it was asked for to the position, and both can be
anything that fits 64 bits. The reader therefore checks the sum before it looks at
any byte: a sum that does not fit counts as past the end, like every other one
behind the image. So a run of operations stays in range whatever it is asked for,
and it has the results and the positions that unbounded numbers give it.
-/

namespace Chiptune.Machine.Cursor

open Chiptune.Cursor (Step Value Made SoundRun at? run_ends runAll_soundRun take_of_le take_of_lt
  length_next)

/-- A read moves the cursor behind what it took, or leaves it where it was. -/
def settle {α : Type} (c : Cursor) (r : Run Malformed (α × Nat)) :
    Option (Except Malformed α × Cursor) :=
  r.run.map fun
    | .ok (a, position) => (.ok a, { c with position := position })
    | .error cause => (.error cause, c)

/-- Take the next `count` bytes and interpret them. -/
def readAs (c : Cursor) (count : Nat) (value : List UInt8 → Option Value) :
    Option (Except Malformed Value × Cursor) :=
  settle c (read c.image c.position count value)

/-- Read a 24-bit number: its high byte, then its low word. -/
def wide (c : Cursor) : Option (Except Malformed Value × Cursor) := do
  match ← settle c (read c.image c.position 1 byteOf) with
  | (.error cause, c) => pure (.error cause, c)
  | (.ok high, c) => readAs c 2 fun bytes => do
    let low ← wordOf bytes
    let shifted ← shiftLeft 32 high.toNat 16
    pure (.number (low ||| shifted))

def run (c : Cursor) : Step → Option (Except Malformed Value × Cursor)
  | .byte => readAs c 1 fun bytes => (byteOf bytes).map fun b => .number b.toNat
  | .word => readAs c 2 fun bytes => (wordOf bytes).map .number
  | .long => readAs c 4 fun bytes => (longOf bytes).map .number
  | .wide => wide c
  | .bytes count => readAs c count fun bytes => some (.bytes bytes)
  | .text count => readAs c count fun bytes => (textOf bytes).map .text
  | .skip count => readAs c count fun _ => some .nothing
  | .seek offset => settle c do
    let position ← seek c.image offset
    pure (.nothing, position)

/-- Carry out operations in turn, keeping each result with the cursor after it. -/
def runAll (c : Cursor) : List Step → Option (List (Except Malformed Value × Cursor))
  | [] => some []
  | step :: steps => do
    let done ← run c step
    let rest ← runAll done.2 steps
    pure (done :: rest)

section

variable {c : Cursor} (small : c.image.size < 2 ^ 63) (inside : c.position ≤ c.image.size)

include small inside

theorem settle_read_eq {α : Type} {count : Nat} {value : List UInt8 → Option α}
    {meaning : List UInt8 → α}
    (means : ∀ bytes, bytes.length = count → value bytes = some (meaning bytes)) :
    settle c (read c.image c.position count value) =
      some ((c.take count).1.map meaning, (c.take count).2) := by
  rw [read_eq small inside means, Cursor.take]
  cases c.image.slice c.position count <;> rfl

theorem readAs_eq {count : Nat} {value : List UInt8 → Option Value}
    {meaning : List UInt8 → Value}
    (means : ∀ bytes, bytes.length = count → value bytes = some (meaning bytes)) :
    readAs c count value = some (c.takeAs count meaning) :=
  settle_read_eq small inside means

theorem wide_eq : wide c = some c.wide := by
  unfold wide Chiptune.Cursor.wide
  rw [settle_read_eq small inside fun _ => byteOf_eq]
  by_cases high : c.position + 1 ≤ c.image.size
  case neg =>
    rw [take_of_lt inside (Nat.lt_of_not_le high)]
    rfl
  rw [take_of_le high]
  refine readAs_eq (c := c.advance 1) small high fun bytes length => ?_
  obtain ⟨h, hh⟩ := List.length_eq_one_iff.1 (length_next high)
  have first : (c.image.toList.drop c.position).take 1 = [h] := hh
  have word : littleEndian bytes < 2 ^ 16 := by
    obtain ⟨b₀, b₁, rfl⟩ := List.length_eq_two.1 length
    have := b₀.toNat_lt
    have := b₁.toNat_lt
    simp only [littleEndian]
    omega
  simp only [first, wordOf_eq length, shiftLeft_above_word, Option.bind_eq_bind,
    Option.bind_some, Option.pure_def, word_or_above word, List.headD_cons, littleEndian,
    Nat.mul_zero, Nat.add_zero]

theorem run_eq (step : Step) : run c step = some (c.run step) := by
  cases step with
  | byte =>
      refine readAs_eq small inside fun bytes length => ?_
      obtain ⟨b, rfl⟩ := List.length_eq_one_iff.1 length
      rfl
  | word => exact readAs_eq small inside fun _ length => by rw [wordOf_eq length]; rfl
  | long => exact readAs_eq small inside fun _ length => by rw [longOf_eq length]; rfl
  | wide => exact wide_eq small inside
  | bytes count => exact readAs_eq small inside fun _ _ => rfl
  | text count => exact readAs_eq small inside fun bytes _ => by rw [textOf_eq bytes]; rfl
  | skip count => exact readAs_eq small inside fun _ _ => rfl
  | seek offset =>
      rw [run, Chiptune.Cursor.run, Machine.seek, Chiptune.Cursor.seek]
      split <;> rfl

end

/-- A run stays in range, and has the results and the positions of the run with
unbounded numbers. -/
theorem runAll_eq {c : Cursor} (small : c.image.size < 2 ^ 63)
    (inside : c.position ≤ c.image.size) (steps : List Step) :
    runAll c steps = some (c.runAll steps) := by
  induction steps generalizing c with
  | nil => rfl
  | cons step steps ih =>
      have ends := run_ends inside step
      have rest := ih (ends.image_eq ▸ small) (ends.image_eq ▸ ends.position_le inside)
      simp only [runAll, run_eq small inside, Option.bind_eq_bind, Option.bind_some, rest]
      rfl

/-- A cursor can be placed exactly at the offsets of an image, its end included. From
there, or from the start, every step of every run is sound, and a machine whose
offsets have 64 bits makes the same run without leaving its range. -/
theorem runAll_keeps_sound :
    (∀ image offset c, at? image offset = .ok c ↔ offset ≤ image.size ∧ c = ⟨image, offset⟩) ∧
      ∀ c, Made c → ∀ steps, SoundRun c steps (c.runAll steps) ∧
        (c.image.size < 2 ^ 63 → runAll c steps = some (c.runAll steps)) := by
  refine ⟨fun _ _ _ => Chiptune.Cursor.at?_eq_ok_iff, ?_⟩
  intro c made steps
  have inside := made.position_le
  exact ⟨runAll_soundRun inside steps, fun small => runAll_eq small inside steps⟩

/-- Steps that ask for too much, between steps that do not. -/
def greedySteps : List Step :=
  [.wide, .bytes (2 ^ 64 - 1), .word, .skip 1, .seek (2 ^ 64 - 1), .seek 0, .wide]

/-- Of three bytes the last two are no 24-bit number, and a count that wraps the sum
around to the byte before is no way to get there. -/
theorem runAll_threeBytes_keeps_sound :
    let c : Cursor := ⟨#[0x34, 0x12, 0x56], 1⟩
    let moved (position : Nat) : Cursor := ⟨c.image, position⟩
    let results := [
      (.error (.truncatedRead 2 2), moved 2),
      (.error (.truncatedRead (2 ^ 64 - 1) 2), moved 2),
      (.error (.truncatedRead 2 2), moved 2),
      (.ok .nothing, moved 3),
      (.error (.offsetPastEnd (2 ^ 64 - 1) 3), moved 3),
      (.ok .nothing, moved 0),
      (.ok (.number 0x345612), moved 3)]
    at? c.image 1 = .ok c ∧ SoundRun c greedySteps results ∧
      runAll c greedySteps = some results := by
  intro c moved results
  have placed : at? c.image 1 = .ok c := by decide
  have run : c.runAll greedySteps = results := by decide
  obtain ⟨-, sound⟩ := runAll_keeps_sound
  obtain ⟨steps, machine⟩ := sound c (.placed placed) greedySteps
  rw [run] at steps machine
  exact ⟨placed, steps, machine (by decide)⟩

end Chiptune.Machine.Cursor

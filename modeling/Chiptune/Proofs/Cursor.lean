import Chiptune.Image.Cursor
import Mathlib.Data.List.Basic

/-!
# What a sequence of reads sees

A step of a cursor ends in one of few ways: it reads bytes that are there, it fails
for want of bytes, or it moves to an offset. All that is known of a run follows from
these ways: however reads and moves, successes and failures are mixed, the cursor
stays in its image, a read gives the bytes at the position before it, and a failing
step leaves the position alone. The 24-bit number is the one exception, since it is
read in two parts and its first part may still be there.
-/

namespace Chiptune.Cursor

/-- The cursor behind the next `count` bytes. -/
def advance (c : Cursor) (count : Nat) : Cursor := { c with position := c.position + count }

/-- The next `count` bytes, or as many as there are. -/
def next (c : Cursor) (count : Nat) : List UInt8 := (c.image.toList.drop c.position).take count

/-- How many bytes are left. -/
def remaining (c : Cursor) : Nat := c.image.size - c.position

/-- How many bytes a step reads. Moving to an offset is not reading. -/
def Step.count? : Step → Option Nat
  | .byte => some 1
  | .word => some 2
  | .wide => some 3
  | .long => some 4
  | .bytes count | .text count | .skip count => some count
  | .seek _ => none

/-- What a reading step makes of its bytes. -/
inductive Reads : Step → List UInt8 → Value → Prop
  | byte (b : UInt8) : Reads .byte [b] (.number b.toNat)
  | word (b₀ b₁ : UInt8) : Reads .word [b₀, b₁] (.number (b₀.toNat + 256 * b₁.toNat))
  | long (b₀ b₁ b₂ b₃ : UInt8) : Reads .long [b₀, b₁, b₂, b₃]
      (.number (b₀.toNat + 256 * b₁.toNat + 65536 * b₂.toNat + 16777216 * b₃.toNat))
  | wide (high low₀ low₁ : UInt8) : Reads .wide [high, low₀, low₁]
      (.number (high.toNat * 65536 + (low₀.toNat + 256 * low₁.toNat)))
  | bytes (content : List UInt8) : Reads (.bytes content.length) content (.bytes content)
  | text (content : List UInt8) :
      Reads (.text content.length) content (.text (Text.field content))
  | skip (content : List UInt8) : Reads (.skip content.length) content .nothing

/-- The ways in which a step ends, with its result and the cursor behind it. -/
inductive Ends (c : Cursor) : Step → Except Malformed Value → Cursor → Prop
  | read {step : Step} {count : Nat} {value : Value} : step.count? = some count →
      c.position + count ≤ c.image.size → Reads step (c.next count) value →
      Ends c step (.ok value) (c.advance count)
  | short {step : Step} {count : Nat} : step.count? = some count → step ≠ .wide →
      c.image.size < c.position + count →
      Ends c step (.error (.truncatedRead count c.position)) c
  /-- Not even the high byte is there. -/
  | nothingLeft : c.position = c.image.size →
      Ends c .wide (.error (.truncatedRead 1 c.position)) c
  /-- The high byte is there, but the low word is not. -/
  | halfLeft : c.position < c.image.size → c.image.size < c.position + 3 →
      Ends c .wide (.error (.truncatedRead 2 (c.position + 1))) (c.advance 1)
  | moved {offset : Nat} : offset ≤ c.image.size →
      Ends c (.seek offset) (.ok .nothing) { c with position := offset }
  | offsetPastEnd {offset : Nat} : c.image.size < offset →
      Ends c (.seek offset) (.error (.offsetPastEnd offset c.image.size)) c

theorem length_next {c : Cursor} {count : Nat} (enough : c.position + count ≤ c.image.size) :
    (c.next count).length = count := by
  rw [next, List.length_take, List.length_drop, Array.length_toList]
  omega

theorem take_of_lt {c : Cursor} {count : Nat} (inside : c.position ≤ c.image.size)
    (short : c.image.size < c.position + count) :
    c.take count = (.error (.truncatedRead count c.position), c) := by
  rw [take, Image.slice, if_neg (Nat.not_lt.2 inside), if_pos short]

theorem takeAs_of_le {c : Cursor} {count : Nat} {interpret : List UInt8 → Value}
    (enough : c.position + count ≤ c.image.size) :
    c.takeAs count interpret = (.ok (interpret (c.next count)), c.advance count) := by
  rw [takeAs, take_of_le enough]
  rfl

theorem takeAs_of_lt {c : Cursor} {count : Nat} {interpret : List UInt8 → Value}
    (inside : c.position ≤ c.image.size) (short : c.image.size < c.position + count) :
    c.takeAs count interpret = (.error (.truncatedRead count c.position), c) := by
  rw [takeAs, take_of_lt inside short]
  rfl

/-- A step that takes all its bytes at once reads them or fails where it is. -/
theorem takeAs_ends {c : Cursor} {step : Step} {count : Nat} {interpret : List UInt8 → Value}
    (inside : c.position ≤ c.image.size) (counts : step.count? = some count)
    (once : step ≠ .wide)
    (reads : ∀ bytes, bytes.length = count → Reads step bytes (interpret bytes)) :
    Ends c step (c.takeAs count interpret).1 (c.takeAs count interpret).2 := by
  by_cases enough : c.position + count ≤ c.image.size
  · rw [takeAs_of_le enough]
    exact .read counts enough (reads _ (length_next enough))
  · have short : c.image.size < c.position + count := Nat.lt_of_not_le enough
    rw [takeAs_of_lt inside short]
    exact .short counts once short

theorem wide_ends {c : Cursor} (inside : c.position ≤ c.image.size) :
    Ends c .wide c.wide.1 c.wide.2 := by
  by_cases high : c.position + 1 ≤ c.image.size
  case neg =>
    rw [wide, take_of_lt inside (Nat.lt_of_not_le high)]
    exact .nothingLeft (by omega)
  have first : c.take 1 = (.ok (c.next 1), c.advance 1) := take_of_le high
  rw [wide, first]
  by_cases low : (c.advance 1).position + 2 ≤ (c.advance 1).image.size
  case neg =>
    have short := Nat.lt_of_not_le low
    simp only [takeAs_of_lt high short]
    exact .halfLeft high short
  have three : c.next 3 = c.next 1 ++ (c.advance 1).next 2 := by
    show (c.image.toList.drop c.position).take (1 + 2) = _
    rw [List.take_add, List.drop_drop]
    rfl
  obtain ⟨h, hh⟩ := List.length_eq_one_iff.1 (length_next high)
  obtain ⟨l₀, l₁, hl⟩ := List.length_eq_two.1 (length_next low)
  simp only [takeAs_of_le low]
  show Ends c .wide _ (c.advance 3)
  refine .read rfl low ?_
  rw [three, hh, hl]
  have number : littleEndian [l₀, l₁] + 65536 * littleEndian [h] =
      h.toNat * 65536 + (l₀.toNat + 256 * l₁.toNat) := by
    simp only [littleEndian]
    omega
  rw [number]
  exact .wide h l₀ l₁

/-- A step of a cursor ends in one of these ways. -/
theorem run_ends {c : Cursor} (inside : c.position ≤ c.image.size) (step : Step) :
    Ends c step (c.run step).1 (c.run step).2 := by
  cases step with
  | byte =>
      refine takeAs_ends inside rfl Step.noConfusion fun bytes length => ?_
      obtain ⟨b, rfl⟩ := List.length_eq_one_iff.1 length
      exact .byte b
  | word =>
      refine takeAs_ends inside rfl Step.noConfusion fun bytes length => ?_
      obtain ⟨b₀, b₁, rfl⟩ := List.length_eq_two.1 length
      exact .word b₀ b₁
  | long =>
      refine takeAs_ends inside rfl Step.noConfusion fun bytes length => ?_
      match bytes, length with
      | [b₀, b₁, b₂, b₃], _ =>
          have number : littleEndian [b₀, b₁, b₂, b₃] =
              b₀.toNat + 256 * b₁.toNat + 65536 * b₂.toNat + 16777216 * b₃.toNat := by
            simp only [littleEndian]
            omega
          rw [number]
          exact .long b₀ b₁ b₂ b₃
  | wide => exact wide_ends inside
  | bytes count =>
      refine takeAs_ends inside rfl Step.noConfusion ?_
      rintro content rfl
      exact .bytes content
  | text count =>
      refine takeAs_ends inside rfl Step.noConfusion ?_
      rintro content rfl
      exact .text content
  | skip count =>
      refine takeAs_ends inside rfl Step.noConfusion ?_
      rintro content rfl
      exact .skip content
  | seek offset =>
      rw [run, seek]
      by_cases past : c.image.size < offset
      · rw [if_pos past]
        exact .offsetPastEnd past
      · rw [if_neg past]
        exact .moved (Nat.le_of_not_lt past)

theorem isAtEnd_iff {c : Cursor} (inside : c.position ≤ c.image.size) :
    c.isAtEnd = true ↔ c.position = c.image.size := by
  rw [isAtEnd, decide_eq_true_eq]
  omega

namespace Ends

variable {c after : Cursor} {step : Step} {result : Except Malformed Value}

theorem image_eq (ends : Ends c step result after) : after.image = c.image := by
  cases ends <;> rfl

theorem position_le (inside : c.position ≤ c.image.size) (ends : Ends c step result after) :
    after.position ≤ c.image.size := by
  cases ends with
  | read _ enough _ => exact enough
  | short => exact inside
  | nothingLeft => exact inside
  | halfLeft some _ => exact some
  | moved le => exact le
  | offsetPastEnd => exact inside

theorem read_ok_iff (ends : Ends c step result after) {count : Nat}
    (counts : step.count? = some count) :
    (∃ value, result = .ok value) ↔ c.position + count ≤ c.image.size := by
  cases ends with
  | read counts' enough _ =>
      cases counts.symm.trans counts'
      exact ⟨fun _ => enough, fun _ => ⟨_, rfl⟩⟩
  | short counts' _ short =>
      cases counts.symm.trans counts'
      simpa using short
  | nothingLeft none =>
      cases counts
      simp
      omega
  | halfLeft _ short =>
      cases counts
      simpa using short
  | moved => cases counts
  | offsetPastEnd => cases counts

theorem value_reads {value : Value} (ends : Ends c step (.ok value) after) {count : Nat}
    (counts : step.count? = some count) :
    Reads step (c.next count) value ∧ after = c.advance count := by
  cases ends with
  | read counts' _ reads =>
      cases counts.symm.trans counts'
      exact ⟨reads, rfl⟩
  | moved => cases counts

theorem move_ok_iff {offset : Nat} (ends : Ends c (.seek offset) result after) :
    (∃ value, result = .ok value) ↔ offset ≤ c.image.size := by
  cases ends with
  | read counts => cases counts
  | short counts => cases counts
  | moved le => exact ⟨fun _ => le, fun _ => ⟨_, rfl⟩⟩
  | offsetPastEnd past => simpa using past

theorem moves {offset : Nat} {value : Value} (ends : Ends c (.seek offset) (.ok value) after) :
    value = .nothing ∧ after = { c with position := offset } := by
  cases ends with
  | read counts => cases counts
  | moved => exact ⟨rfl, rfl⟩

/-- A step that fails has not moved, unless it has passed the first part of a 24-bit
number. -/
theorem error_stays {cause : Malformed} (ends : Ends c step (.error cause) after)
    (whole : ¬ (step = .wide ∧ (c.remaining = 1 ∨ c.remaining = 2))) : after = c := by
  cases ends with
  | short => rfl
  | nothingLeft => rfl
  | halfLeft some short =>
      refine absurd ⟨rfl, ?_⟩ whole
      unfold remaining
      omega
  | offsetPastEnd => rfl

theorem halfWide (ends : Ends c .wide result after) (cut : c.remaining = 1 ∨ c.remaining = 2) :
    (∃ cause, result = .error cause) ∧ after = c.advance 1 := by
  unfold remaining at cut
  cases ends with
  | read counts enough =>
      cases counts
      omega
  | short _ once => exact absurd rfl once
  | nothingLeft none => omega
  | halfLeft => exact ⟨⟨_, rfl⟩, rfl⟩

end Ends

/-- What is true of a step in any run, told by the cursor before it. -/
structure Sound (c : Cursor) (step : Step) (result : Except Malformed Value)
    (after : Cursor) : Prop where
  image : after.image = c.image
  inside : after.position ≤ after.image.size
  atEnd : after.isAtEnd = true ↔ after.position = after.image.size
  /-- A read succeeds exactly if all its bytes are left. -/
  read : ∀ count, step.count? = some count →
    ((∃ value, result = .ok value) ↔ c.position + count ≤ c.image.size)
  value : ∀ count value, step.count? = some count → result = .ok value →
    Reads step (c.next count) value ∧ after = c.advance count
  /-- A move succeeds exactly if it stays in the image. -/
  move : ∀ offset, step = .seek offset →
    ((∃ value, result = .ok value) ↔ offset ≤ c.image.size)
  moved : ∀ offset value, step = .seek offset → result = .ok value →
    value = .nothing ∧ after = { c with position := offset }
  /-- A failing step stays where it was, but for a 24-bit number cut in two. -/
  stays : ∀ cause, result = .error cause →
    ¬ (step = .wide ∧ (c.remaining = 1 ∨ c.remaining = 2)) → after = c
  halfWide : step = .wide → c.remaining = 1 ∨ c.remaining = 2 →
    (∃ cause, result = .error cause) ∧ after = c.advance 1

theorem Ends.sound {c after : Cursor} {step : Step} {result : Except Malformed Value}
    (ends : Ends c step result after) (inside : c.position ≤ c.image.size) :
    Sound c step result after where
  image := ends.image_eq
  inside := ends.image_eq ▸ ends.position_le inside
  atEnd := isAtEnd_iff (ends.image_eq ▸ ends.position_le inside)
  read _ counts := ends.read_ok_iff counts
  value _ _ counts ok := (ok ▸ ends).value_reads counts
  move _ seeks := (seeks ▸ ends).move_ok_iff
  moved _ _ seeks ok := by
    subst seeks ok
    exact ends.moves
  stays _ failed whole := (failed ▸ ends).error_stays whole
  halfWide isWide cut := (isWide ▸ ends).halfWide cut

/-- A run whose every step is sound: it has one result for each step, and each step
starts from the cursor that the one before it left. -/
inductive SoundRun : Cursor → List Step → List (Except Malformed Value × Cursor) → Prop
  | nil (c : Cursor) : SoundRun c [] []
  | cons {c after : Cursor} {step : Step} {result : Except Malformed Value} {steps : List Step}
      {results : List (Except Malformed Value × Cursor)} : Sound c step result after →
      SoundRun after steps results → SoundRun c (step :: steps) ((result, after) :: results)

theorem runAll_soundRun {c : Cursor} (inside : c.position ≤ c.image.size) (steps : List Step) :
    SoundRun c steps (c.runAll steps) := by
  induction steps generalizing c with
  | nil => exact .nil c
  | cons step steps ih =>
      have sound := (run_ends inside step).sound inside
      exact .cons sound (ih sound.inside)

theorem at?_eq_ok_iff {image : Image} {offset : Nat} {c : Cursor} :
    at? image offset = .ok c ↔ offset ≤ image.size ∧ c = ⟨image, offset⟩ := by
  rw [at?, seek, start]
  by_cases past : image.size < offset
  · rw [if_pos past]
    simpa using fun le => absurd le (Nat.not_le_of_lt past)
  · rw [if_neg past]
    simpa [Nat.le_of_not_lt past] using eq_comm

/-- The ways to get a cursor: at the start of an image, or at an offset in it. -/
inductive Made : Cursor → Prop
  | start (image : Image) : Made (start image)
  | placed {image : Image} {offset : Nat} {c : Cursor} : at? image offset = .ok c → Made c

theorem Made.position_le {c : Cursor} (made : Made c) : c.position ≤ c.image.size := by
  cases made with
  | start image => exact Nat.zero_le _
  | placed there =>
      obtain ⟨inside, rfl⟩ := at?_eq_ok_iff.1 there
      exact inside

end Chiptune.Cursor

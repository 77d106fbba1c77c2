import Chiptune.Proofs.Machine.Reading
import Chiptune.Proofs.Machine.Sound
import Chiptune.Proofs.ScreamTracker.Packing
import Chiptune.ScreamTracker.Row

/-!
# Packed patterns, step by step

A packed pattern is read cell by cell from a position. What is still to read is
always the end of the stream, so that the position is known from it; the loop has
a round for each cell and ends with the stream. A cell keeps the number of its
channel, which the reader has checked, and this check is what makes the number an
index into the four cells of a row later on.
-/

namespace Chiptune.Machine.ScreamTracker

open Chiptune.ScreamTracker Run

/-- A cell with the number of its channel, from zero. -/
structure RawCell where
  channel : UInt8 := 0
  note : Option NoteColumn := none
  volume : Option UInt8 := none
  effect : Option Chiptune.Effect := none
deriving DecidableEq, Repr

def RawCell.ofCell (cell : Cell) : RawCell :=
  ⟨UInt8.ofNat cell.channel.index, cell.note, cell.volume, cell.effect⟩

def RawCell.endOfRow : RawCell := {}

theorem RawCell.ofCell_eq_endOfRow_iff {cell : Cell} :
    ofCell cell = endOfRow ↔ cell.isEndOfRow = true := by
  have first : ∀ c : Channel, UInt8.ofNat c.index = 0 ↔ c = .pulse1 := by
    intro c
    cases c <;> decide
  obtain ⟨channel, note, volume, effect⟩ := cell
  simp [ofCell, endOfRow, Cell.isEndOfRow, Cell.endOfRow, first]

def readNote (body : Image) (position : Nat) : Bool → Run Malformed (Option NoteColumn × Nat)
  | false => pure (none, position)
  | true => do
    let (note, position) ← read body position 1 byteOf
    let (instrument, position) ← read body position 1 byteOf
    pure (some ⟨note, instrument⟩, position)

def readVolume (body : Image) (position : Nat) : Bool → Run Malformed (Option UInt8 × Nat)
  | false => pure (none, position)
  | true => do
    let (volume, position) ← read body position 1 byteOf
    pure (some volume, position)

def readEffect (body : Image) (position : Nat) :
    Bool → Run Malformed (Option Chiptune.Effect × Nat)
  | false => pure (none, position)
  | true => do
    let (command, position) ← read body position 1 byteOf
    let (param, position) ← read body position 1 byteOf
    pure (some ⟨command, param⟩, position)

/-- The fields that a header announces, as a cell of the channel with a number. -/
def readFields (body : Image) (channel header : UInt8) (position : Nat) :
    Run Malformed (RawCell × Nat) := do
  let (note, position) ← readNote body position (header &&& Cell.noteFlag != 0)
  let (volume, position) ← readVolume body position (header &&& Cell.volumeFlag != 0)
  let (effect, position) ← readEffect body position (header &&& Cell.effectFlag != 0)
  pure (⟨channel, note, volume, effect⟩, position)

/-- The cell that a header starts. -/
def readCell (body : Image) (header : UInt8) (position : Nat) : Run Malformed (RawCell × Nat) :=
  let channel := header &&& Cell.channelMask
  if 4 ≤ channel then do
    let number ← step (Byte.add channel 1)
    throw (.channelRange number.toNat)
  else readFields body channel header position

/-- Read cells up to the end of the stream. Every round takes a byte, so that a round
for each byte and one for the end suffice. -/
def unpackFrom (body : Image) (cells : List RawCell) : Nat → Nat → Run Malformed (List RawCell)
  | 0, _ => step none
  | rounds + 1, position =>
    if body.size ≤ position then pure cells.reverse
    else do
      let (header, position) ← read body position 1 byteOf
      if header = 0 then unpackFrom body (.endOfRow :: cells) rounds position
      else do
        let (cell, position) ← readCell body header position
        unpackFrom body (cell :: cells) rounds position

def unpack (body : Image) : Run Malformed (List RawCell) :=
  unpackFrom body [] (body.size + 1) 0

/-- The cells of the pattern at a paragraph of an image. -/
def loadPattern (image : Image) (paragraph : Nat) : Run Malformed (List RawCell) :=
  if paragraph = 0 then pure (List.replicate rowsPerPattern .endOfRow)
  else do
    let offset ← step (mul 64 paragraph 16)
    let (size, position) ← readAt image offset 2 wordOf
    if size < 2 then throw (.patternLength offset size)
    else do
      let length ← step (sub size 2)
      let (body, _) ← read image position length some
      unpack body.toArray

/-- The number that is shown for a channel, which counts from one, is a byte. -/
theorem channelNumber (header : UInt8) : ∃ number,
    Byte.add (header &&& Cell.channelMask) 1 = some number ∧
      number.toNat = (header &&& Cell.channelMask).toNat + 1 := by
  have small : (header &&& Cell.channelMask).toNat ≤ 31 := by
    rw [UInt8.toNat_and]
    exact Nat.and_le_right
  have next : (header &&& Cell.channelMask).toNat + 1 < 256 := by omega
  refine ⟨_, Byte.add_eq_some next, ?_⟩
  rw [UInt8.toNat_add]
  exact Nat.mod_eq_of_lt next

section

variable {α β : Type} {body : Image}

/-- What was taken from the front of the rest of a stream, and the position behind it;
a stream ends only where a single byte is missing. -/
def located (body : Image) : Option (α × List UInt8) → Except Malformed (α × Nat)
  | none => .error (.truncatedRead 1 body.size)
  | some (a, rest) => .ok (a, body.size - rest.length)

theorem of_located_bind {x : Option (α × List UInt8)}
    {f : α × List UInt8 → Option (β × List UInt8)} {g : α × Nat → Run Malformed (β × Nat)}
    (next : ∀ a rest, x = some (a, rest) →
      g (a, body.size - rest.length) = of (located body (f (a, rest)))) :
    (of (located body x) >>= g) = of (located body (x.bind f)) := by
  cases x with
  | none => rfl
  | some taken => exact next taken.1 taken.2 rfl

variable (small : body.size < 2 ^ 63)

include small

/-- Reading the next byte takes the first one of what is still to read. -/
theorem read_next {rest : List UInt8} (suffix : rest <:+ body.toList) :
    read body (body.size - rest.length) 1 byteOf = of (located body rest.next?) := by
  obtain ⟨before, split⟩ := suffix
  have size : body.size = before.length + rest.length := by
    rw [← Array.length_toList, ← split, List.length_append]
  have position : body.size - rest.length = before.length := by omega
  rw [position, read_byte small (by omega)]
  cases rest with
  | nil =>
      have ends : before.length = body.size := by simpa using size.symm
      have missing : body.byte before.length = .error (.truncatedRead 1 body.size) := by
        rw [Image.byte, Image.slice, ends, if_neg (by omega), if_pos (by omega)]
        rfl
      rw [missing]
      rfl
  | cons b rest =>
      have taken : body.slice before.length 1 = .ok [b] := by
        rw [Image.slice_eq_ok_iff, ← split, List.drop_left]
        exact ⟨by rw [size, List.length_cons]; omega, rfl⟩
      have next : before.length + 1 = body.size - rest.length := by
        rw [List.length_cons] at size
        omega
      rw [Image.byte, taken, next]
      rfl

/-- The byte is taken off the front, and what is behind it is still to read. -/
theorem read_next_bind {rest : List UInt8} (suffix : rest <:+ body.toList)
    {f : UInt8 × List UInt8 → Option (α × List UInt8)} {g : UInt8 × Nat → Run Malformed (α × Nat)}
    (next : ∀ b behind, behind <:+ body.toList →
      g (b, body.size - behind.length) = of (located body (f (b, behind)))) :
    (read body (body.size - rest.length) 1 byteOf >>= g) =
      of (located body (rest.next?.bind f)) := by
  rw [read_next small suffix]
  refine of_located_bind fun b behind taken => next b behind ?_
  cases rest with
  | nil => cases taken
  | cons _ _ =>
      cases taken
      exact (List.suffix_cons _ _).trans suffix

theorem readNote_eq {rest : List UInt8} (suffix : rest <:+ body.toList) (present : Bool) :
    readNote body (body.size - rest.length) present =
      of (located body (Pattern.takeNote present rest)) := by
  cases present with
  | false => rfl
  | true =>
      have front : Pattern.takeNote true rest = rest.next? >>= fun note =>
          note.2.next? >>= fun instrument =>
            some (some ⟨note.1, instrument.1⟩, instrument.2) := by
        rcases rest with _ | ⟨_, _ | ⟨_, _⟩⟩ <;> rfl
      rw [front]
      refine read_next_bind small suffix fun note rest suffix => ?_
      exact read_next_bind small suffix fun instrument rest _ => rfl

theorem readVolume_eq {rest : List UInt8} (suffix : rest <:+ body.toList) (present : Bool) :
    readVolume body (body.size - rest.length) present =
      of (located body (Pattern.takeVolume present rest)) := by
  cases present with
  | false => rfl
  | true =>
      have front : Pattern.takeVolume true rest =
          rest.next? >>= fun volume => some (some volume.1, volume.2) := by
        cases rest <;> rfl
      rw [front]
      exact read_next_bind small suffix fun volume rest _ => rfl

theorem readEffect_eq {rest : List UInt8} (suffix : rest <:+ body.toList) (present : Bool) :
    readEffect body (body.size - rest.length) present =
      of (located body (Pattern.takeEffect present rest)) := by
  cases present with
  | false => rfl
  | true =>
      have front : Pattern.takeEffect true rest = rest.next? >>= fun command =>
          command.2.next? >>= fun param => some (some ⟨command.1, param.1⟩, param.2) := by
        rcases rest with _ | ⟨_, _ | ⟨_, _⟩⟩ <;> rfl
      rw [front]
      refine read_next_bind small suffix fun command rest suffix => ?_
      exact read_next_bind small suffix fun param rest _ => rfl

theorem readFields_eq {rest : List UInt8} (suffix : rest <:+ body.toList) (c : Channel)
    (header : UInt8) :
    readFields body (UInt8.ofNat c.index) header (body.size - rest.length) =
      of (located body ((Pattern.takeFields c header rest).map fun taken =>
        (RawCell.ofCell taken.1, taken.2))) := by
  unfold readFields Pattern.takeFields
  simp only [Option.bind_eq_bind, Option.map_bind, readNote_eq small suffix]
  refine of_located_bind fun note afterNote taken => ?_
  obtain ⟨-, split⟩ := Pattern.takeNote_eq_some_iff.1 taken
  have suffix : afterNote <:+ body.toList := .trans ⟨_, split.symm⟩ suffix
  simp only [Function.comp_apply, Option.map_bind, readVolume_eq small suffix]
  refine of_located_bind fun volume afterVolume taken => ?_
  obtain ⟨-, split⟩ := Pattern.takeVolume_eq_some_iff.1 taken
  have suffix : afterVolume <:+ body.toList := .trans ⟨_, split.symm⟩ suffix
  simp only [readEffect_eq small suffix]
  exact of_located_bind fun effect afterEffect _ => rfl

theorem readCell_eq {rest : List UInt8} (suffix : rest <:+ body.toList) (header : UInt8) :
    readCell body header (body.size - rest.length) =
      of ((Pattern.takeCell body.size header rest).map fun taken =>
        (RawCell.ofCell taken.1, body.size - taken.2.length)) := by
  unfold readCell Pattern.takeCell
  cases known : Channel.ofIndex? (header &&& Cell.channelMask).toNat with
  | none =>
      have beyond : 4 ≤ header &&& Cell.channelMask := Channel.ofIndex?_eq_none_iff.1 known
      obtain ⟨number, counted, shown⟩ := channelNumber header
      simp only [if_pos beyond, counted, step_bind, shown, known]
      rfl
  | some c =>
      have index := Pattern.index_eq_of_ofIndex? known
      have inside : ¬ 4 ≤ header &&& Cell.channelMask := by
        have first : c.index < 4 := by cases c <;> decide
        rw [UInt8.le_iff_toNat_le, index]
        exact Nat.not_le.2 first
      have channel : header &&& Cell.channelMask = UInt8.ofNat c.index := by
        rw [← index, UInt8.ofNat_toNat]
      simp only [if_neg inside, known]
      rw [channel, readFields_eq small suffix]
      cases Pattern.takeFields c header rest <;> rfl

theorem unpackFrom_eq (cells : List Cell) {rounds : Nat} {rest : List UInt8}
    (suffix : rest <:+ body.toList) (enough : rest.length < rounds) :
    unpackFrom body (cells.map .ofCell) rounds (body.size - rest.length) =
      of ((Pattern.unpackOnto body.size cells rest).map (List.map .ofCell)) := by
  induction rounds generalizing cells rest with
  | zero => exact absurd enough (Nat.not_lt_zero _)
  | succ rounds ih =>
      have length : rest.length ≤ body.size := suffix.length_le
      cases rest with
      | nil =>
          have ends : body.size ≤ body.size - ([] : List UInt8).length := Nat.le_refl _
          rw [unpackFrom, if_pos ends, ← List.map_reverse, Pattern.unpackOnto]
          rfl
      | cons header rest =>
          have inside : ¬ body.size ≤ body.size - (header :: rest).length := by
            rw [List.length_cons] at *
            omega
          have behind : rest <:+ body.toList := (List.suffix_cons _ _).trans suffix
          have fewer : rest.length < rounds := Nat.lt_of_succ_lt_succ enough
          rw [unpackFrom, if_neg inside, read_next small suffix]
          show (if header = 0 then _ else readCell body header (body.size - rest.length) >>= _) = _
          by_cases ends : header = 0
          · subst ends
            rw [if_pos rfl, Pattern.unpackOnto, if_pos rfl]
            exact ih (.endOfRow :: cells) behind fewer
          · rw [if_neg ends, readCell_eq small behind, Pattern.unpackOnto_cons]
            show _ = of (Except.map _ (_ >>= _))
            rw [map_bind]
            refine of_map_bind fun next taken => ?_
            obtain ⟨cell, after⟩ := next
            have split := Pattern.takeCell_eq_ok_iff.1 taken
            have rest_eq : rest = cell.fieldBytes ++ after := (List.cons.inj split).2
            have shorter : after.length ≤ rest.length := Pattern.takeCell_length taken
            exact ih (cell :: cells) (.trans ⟨_, rest_eq.symm⟩ behind)
              (Nat.lt_of_le_of_lt shorter fewer)

end

theorem unpack_eq (body : List UInt8) (small : body.length < 2 ^ 63) :
    unpack body.toArray = of ((Pattern.unpack body).map fun p => p.cells.map .ofCell) := by
  have whole : unpackFrom body.toArray [] (body.length + 1) (body.toArray.size - body.length) =
      of ((Pattern.unpackOnto body.toArray.size [] body).map (List.map .ofCell)) :=
    unpackFrom_eq small [] (List.suffix_refl body) (Nat.lt_succ_self _)
  rw [List.size_toArray, Nat.sub_self] at whole
  rw [unpack, List.size_toArray, Pattern.unpack]
  refine whole.trans ?_
  cases Pattern.unpackOnto body.length [] body <;> rfl

theorem loadPattern_eq {image : Image} (small : image.size < 2 ^ 63) {paragraph : Nat}
    (word : paragraph < 2 ^ 16) :
    loadPattern image paragraph =
      of ((Pattern.load image paragraph).map fun p => p.cells.map .ofCell) := by
  unfold loadPattern Pattern.load
  split
  · rfl
  · rw [mul_paragraph (by omega), step_bind, readAt_word small, map_bind]
    refine of_map_bind fun size taken => ?_
    have inside := (Image.word_eq_ok_wordAt_iff.1 taken).1
    simp only []
    split
    · rfl
    · rename_i long
      have length : sub size 2 = some (size - 2) := sub_eq_some (Nat.le_of_not_lt long)
      rw [length, step_bind, read_bytes small inside, map_bind]
      refine of_map_bind fun body taken => ?_
      have bounded := (Image.slice_eq_ok_iff.1 taken).1
      rw [← Image.slice_length taken] at bounded
      exact unpack_eq body (by omega)

end Chiptune.Machine.ScreamTracker

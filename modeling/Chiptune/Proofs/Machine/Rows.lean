import Chiptune.Proofs.Machine.Patterns
import Chiptune.Protracker.Tune

/-!
# Rows and their voices, step by step

A row is a list of four cells. The number that a packed cell keeps is its index
in that list, and the number of a channel, which counts from one, is never the
zero that has no index. Protracker cells are found by their offset in the image,
which is made of the numbers of a pattern and a row; they are spread over four
bytes and put together by shifts that lose nothing.
-/

namespace Chiptune.Machine

open Run

/-- Channels count from one, the cells of a row from zero. -/
theorem sub_number (c : Channel) : sub c.number 1 = some c.index := by cases c <;> rfl

namespace ScreamTracker

open Chiptune.ScreamTracker

def emptyRow : List RawCell := List.replicate 4 {}

def ofRow (row : Row) : List RawCell := row.cells.toList.map .ofCell

/-- The fields of a cell replace those in the slot of its channel. -/
def merge (row : List RawCell) (cell : RawCell) : Option (List RawCell) := do
  let slot ← nth row cell.channel.toNat
  store row cell.channel.toNat
    ⟨cell.channel, cell.note.or slot.note, cell.volume.or slot.volume, cell.effect.or slot.effect⟩

/-- The rows of a list of cells; what is left behind the last one is dropped. -/
def splitOnto (done : List (List RawCell)) (current : List RawCell) :
    List RawCell → Option (List (List RawCell))
  | [] => some done.reverse
  | cell :: cells =>
    if cell = .endOfRow then splitOnto (current :: done) emptyRow cells
    else do
      let current ← merge current cell
      splitOnto done current cells

def rows (cells : List RawCell) : Option (List (List RawCell)) := splitOnto [] emptyRow cells

/-- The channel of a cell that has been read has a slot. -/
theorem merge_eq (row : Row) (cell : Cell) :
    merge (ofRow row) (.ofCell cell) = some (ofRow (row.merge cell)) := by
  obtain ⟨channel, note, volume, effect⟩ := cell
  cases channel <;> rfl

/-- A cell of any other channel would have none. -/
example : merge emptyRow { channel := 4 } = none := rfl

theorem splitOnto_eq (done : List Row) (current : Row) (cells : List Cell) :
    splitOnto (done.map ofRow) (ofRow current) (cells.map .ofCell) =
      some ((Chiptune.ScreamTracker.splitOnto done current cells).1.map ofRow) := by
  induction cells generalizing done current with
  | nil => exact congrArg some List.map_reverse.symm
  | cons cell cells ih =>
      rw [List.map_cons, splitOnto, Chiptune.ScreamTracker.splitOnto]
      by_cases ends : cell.isEndOfRow = true
      · rw [if_pos ends, if_pos (RawCell.ofCell_eq_endOfRow_iff.2 ends)]
        exact ih (current :: done) Row.empty
      · rw [if_neg ends, if_neg fun same => ends (RawCell.ofCell_eq_endOfRow_iff.1 same), merge_eq]
        exact ih done (current.merge cell)

theorem rows_eq (p : Pattern) : rows (p.cells.map .ofCell) = some (p.rows.map ofRow) :=
  splitOnto_eq [] Row.empty p.cells

def noteOf (lead : Lead) (note : UInt8) : Run Fault (Option Note) :=
  if note = noNote then pure none
  else if note = Sound.noteCut then pure (some .cut)
  else
    match lead with
    | .note => do
      let i ← Sound.noteIndex note
      pure (some (.index i))
    | .kit => pure none

/-- The voice that a cell asks for. -/
def voice (cell : RawCell) (lead : Lead) (defaultVolume : UInt8 → Option UInt8) :
    Run Fault Voice :=
  match cell.note with
  | none => pure { volume := cell.volume, effect := cell.effect }
  | some column => do
    let note ← noteOf lead column.note
    let sounds :=
      match lead with
      | .note => (note matches some (.index _))
      | .kit => column.instrument != 0 && column.note != Sound.noteCut
    let ownVolume :=
      if column.instrument = 0 then Sound.fullVolume
      else (defaultVolume column.instrument).getD Sound.fullVolume
    pure {
      note := note
      instrument := column.instrument
      volume := if sounds then some (cell.volume.getD ownVolume) else cell.volume
      effect := cell.effect }

/-- The voice of a channel in a row. -/
def voiceIn (row : List RawCell) (defaultVolume : UInt8 → Option UInt8) (c : Channel) :
    Run Fault Voice := do
  let index ← step (sub c.number 1)
  let cell ← step (nth row index)
  voice cell c.lead defaultVolume

theorem noteOf_eq (lead : Lead) (note : UInt8) :
    noteOf lead note = of (Chiptune.ScreamTracker.noteOf lead note) := by
  unfold noteOf Chiptune.ScreamTracker.noteOf
  split
  · rfl
  split
  · rfl
  cases lead with
  | note =>
      simp only [Sound.noteIndex_eq]
      exact of_bind_pure
  | kit => rfl

theorem voice_eq (cell : Cell) (lead : Lead) (defaultVolume : UInt8 → Option UInt8) :
    voice (.ofCell cell) lead defaultVolume = of (cell.voice lead defaultVolume) := by
  obtain ⟨channel, note, volume, effect⟩ := cell
  cases note with
  | none => rfl
  | some column =>
      show (noteOf lead column.note >>= _) = _
      rw [noteOf_eq]
      exact of_bind_pure

theorem voiceIn_eq (row : Row) (defaultVolume : UInt8 → Option UInt8) (c : Channel) :
    voiceIn (ofRow row) defaultVolume c = of ((row.cells.get c).voice c.lead defaultVolume) := by
  have cell : nth (ofRow row) c.index = some (.ofCell (row.cells.get c)) := by cases c <;> rfl
  rw [voiceIn, sub_number, step_bind, cell, step_bind, voice_eq]

end ScreamTracker

namespace Protracker

open Chiptune.Protracker

/-- Where a row of a pattern starts in the image. -/
def rowOffset (pattern row : Nat) : Option Nat := do
  let before ← mul 64 pattern 1024
  let start ← add 64 patternsOffset before
  let cells ← mul 64 row 4
  let inside ← mul 64 cells 4
  add 64 start inside

def cellOf (bytes : List UInt8) : Option Cell := do
  let b₀ ← nth bytes 0
  let b₁ ← nth bytes 1
  let b₂ ← nth bytes 2
  let b₃ ← nth bytes 3
  let low ← Byte.shiftRight b₂ 4
  let high ← shiftLeft 16 (b₀ &&& 0x0F).toNat 8
  pure {
    sample := (b₀ &&& (0xF0 : UInt8)) ||| low
    period := b₁.toNat ||| high
    effect := ⟨b₂ &&& 0x0F, b₃⟩ }

/-- The four cells of a row. -/
def row (image : Image) (pattern row : Nat) : Run Malformed (List Cell) := do
  let offset ← step (rowOffset pattern row)
  let (pulse1, position) ← readAt image offset 4 cellOf
  let (pulse2, position) ← read image position 4 cellOf
  let (wave, position) ← read image position 4 cellOf
  let (noise, _) ← read image position 4 cellOf
  pure [pulse1, pulse2, wave, noise]

/-- The voice that a cell asks for. -/
def voice (cell : Cell) (lead : Lead) : Run Fault Voice := do
  let note ← noteOfPeriod cell.period
  pure {
    note := match lead with
      | .note => note.map .index
      | .kit => none
    instrument := cell.sample
    volume := if cell.effect.command = setVolume then some cell.effect.param else none
    effect :=
      if cell.effect.command = setVolume then none
      else if cell.hasEffect then some cell.effect
      else none }

/-- The voice of a channel in a row. -/
def voiceIn (cells : List Cell) (c : Channel) : Run Fault Voice := do
  let index ← step (sub c.number 1)
  let cell ← step (nth cells index)
  voice cell c.lead

/-- The cell in four bytes. -/
def cellIn (bytes : List UInt8) : Cell :=
  .ofBytes (bytes.getD 0 0) (bytes.getD 1 0) (bytes.getD 2 0) (bytes.getD 3 0)

theorem rowOffset_eq {pattern row : Nat} (p : pattern < 256) (r : row < rowsPerPattern) :
    rowOffset pattern row = some (Chiptune.Protracker.rowOffset pattern row) := by
  unfold rowsPerPattern at r
  have before : mul 64 pattern 1024 = some (pattern * 1024) := mul_eq_some (by omega)
  have start : add 64 1084 (pattern * 1024) = some (1084 + pattern * 1024) :=
    add_eq_some (by omega)
  have cells : mul 64 row 4 = some (row * 4) := mul_eq_some (by omega)
  have inside : mul 64 (row * 4) 4 = some (row * 4 * 4) := mul_eq_some (by omega)
  have sum : add 64 (1084 + pattern * 1024) (row * 4 * 4) =
      some (1084 + pattern * 1024 + row * 4 * 4) := add_eq_some (by omega)
  have offset : 1084 + pattern * 1024 + row * 4 * 4 =
      Chiptune.Protracker.rowOffset pattern row := by
    rw [Chiptune.Protracker.rowOffset, patternsOffset]
    omega
  simp only [rowOffset, patternsOffset, Option.bind_eq_bind, before, start, cells, inside, sum,
    Option.bind_some, offset]

/-- The parts of a period do not overlap. -/
theorem cellOf_eq {bytes : List UInt8} (length : bytes.length = 4) :
    cellOf bytes = some (cellIn bytes) := by
  match bytes, length with
  | [b₀, b₁, b₂, b₃], _ =>
      have nibble : (b₀ &&& 0x0F).toNat = b₀.toNat % 16 := by
        rw [UInt8.toNat_and]
        exact Nat.and_two_pow_sub_one_eq_mod b₀.toNat 4
      have high : shiftLeft 16 (b₀.toNat % 16) 8 = some (b₀.toNat % 16 * 2 ^ 8) :=
        shiftLeft_eq_some (by decide) (by omega)
      have period : b₁.toNat ||| b₀.toNat % 16 * 2 ^ 8 = 256 * (b₀.toNat % 16) + b₁.toNat := by
        rw [or_mul_two_pow b₁.toNat_lt]
        omega
      show (do
        let high ← shiftLeft 16 (b₀ &&& 0x0F).toNat 8
        pure (⟨_, b₁.toNat ||| high, _⟩ : Cell)) = _
      rw [nibble, high]
      show some (⟨_, b₁.toNat ||| b₀.toNat % 16 * 2 ^ 8, _⟩ : Cell) = _
      rw [period]
      rfl

section

variable {image : Image} (small : image.size < 2 ^ 63)

include small

theorem read_cell {position : Nat} (inside : position ≤ image.size) :
    read image position 4 cellOf =
      of ((image.slice position 4).map fun bytes => (cellIn bytes, position + 4)) := by
  rw [read_eq small inside fun _ => cellOf_eq]
  cases image.slice position 4 <;> rfl

theorem readAt_cell (offset : Nat) : readAt image offset 4 cellOf =
    of ((image.slice offset 4).map fun bytes => (cellIn bytes, offset + 4)) := by
  rw [readAt_eq small offset fun _ => cellOf_eq]
  cases image.slice offset 4 <;> rfl

end

theorem row_eq {tune : Tune} (small : tune.image.size < 2 ^ 63) {pattern index : Nat}
    (p : pattern < 256) (r : index < rowsPerPattern) :
    row tune.image pattern index = of ((tune.row pattern index).map PerChannel.toList) := by
  unfold row Tune.row
  rw [rowOffset_eq p r, step_bind, readAt_cell small, map_bind]
  refine of_map_bind fun b₁ taken₁ => ?_
  simp only [read_cell small (le_size_of_slice taken₁), map_bind]
  refine of_map_bind fun b₂ taken₂ => ?_
  simp only [read_cell small (le_size_of_slice taken₂)]
  refine of_map_bind fun b₃ taken₃ => ?_
  simp only [read_cell small (le_size_of_slice taken₃)]
  refine of_map_bind fun b₄ taken₄ => ?_
  match b₁, b₂, b₃, b₄, Image.slice_length taken₁, Image.slice_length taken₂,
    Image.slice_length taken₃, Image.slice_length taken₄ with
  | [_, _, _, _], [_, _, _, _], [_, _, _, _], [_, _, _, _], _, _, _, _ => rfl

theorem voice_eq (cell : Cell) (lead : Lead) : voice cell lead = of (cell.voice lead) := by
  rw [voice, noteOfPeriod_eq, Cell.voice]
  exact of_bind_pure

theorem voiceIn_eq (cells : PerChannel Cell) (c : Channel) :
    voiceIn cells.toList c = of ((cells.get c).voice c.lead) := by
  have cell : nth cells.toList c.index = some (cells.get c) := by cases c <;> rfl
  rw [voiceIn, sub_number, step_bind, cell, step_bind, voice_eq]

end Protracker

end Chiptune.Machine

import Chiptune.ScreamTracker.Pattern
import Chiptune.Voice

/-!
# Rows of a packed pattern

A row is everything that the cells between two row ends say. Cells of one
channel add up field by field, a later field replacing an earlier one. Cells
behind the last row end belong to no row and are dropped.

`Cell.voice` reads the accumulated fields of a channel as a voice.
-/

namespace Chiptune.ScreamTracker

/-- The fields of later cells replace those of earlier ones. -/
def Cell.overlay (cell earlier : Cell) : Cell where
  channel := cell.channel
  note := cell.note.or earlier.note
  volume := cell.volume.or earlier.volume
  effect := cell.effect.or earlier.effect

/-- What a pattern says about the four channels in one row. -/
structure Row where
  cells : PerChannel Cell
deriving DecidableEq, Repr

namespace Row

def empty : Row := ⟨.ofFn fun _ => {}⟩

def merge (row : Row) (cell : Cell) : Row :=
  ⟨row.cells.set cell.channel (cell.overlay (row.cells.get cell.channel))⟩

def isSilent (row : Row) : Bool := row.cells.toList.all Cell.isSilent

theorem merge_get_of_ne (row : Row) {cell : Cell} {c : Channel} (h : c ≠ cell.channel) :
    (row.merge cell).cells.get c = row.cells.get c :=
  PerChannel.get_set_of_ne _ _ h

theorem merge_get_self (row : Row) (cell : Cell) :
    (row.merge cell).cells.get cell.channel =
      cell.overlay (row.cells.get cell.channel) :=
  PerChannel.get_set_self _ _ _

end Row

/-- The rows of a list of cells, and the row that their end leaves unfinished;
`done` holds earlier rows in reverse, `current` the row in progress. -/
def splitOnto (done : List Row) (current : Row) : List Cell → List Row × Row
  | [] => (done.reverse, current)
  | cell :: cells =>
    if cell.isEndOfRow then splitOnto (current :: done) Row.empty cells
    else splitOnto done (current.merge cell) cells

namespace Pattern

/-- The rows of a pattern, and what its last cells leave unfinished. -/
def split (p : Pattern) : List Row × Row := splitOnto [] Row.empty p.cells

def rows (p : Pattern) : List Row := p.split.1

/-- The rows of a pattern; dropping unfinished cells is told. -/
def tellRows {ε : Type} (p : Pattern) : Journal ε (List Row) := do
  Journal.noteIf (!p.split.2.isSilent) .trailingCells
  pure p.rows

end Pattern

def noNote : UInt8 := 0xFF

/-- The note of a cell on a channel with the given lead. The noise channel has
no pitch. -/
def noteOf (lead : Lead) (note : UInt8) : Except Fault (Option Note) :=
  if note = noNote then .ok none
  else if note = Sound.noteCut then .ok (some .cut)
  else
    match lead with
    | .note => (Sound.noteIndex note).map fun i => some (.index i)
    | .kit => .ok none

/-- The voice that a cell asks for. A note that sounds, or a kit, plays at the
default volume of its instrument unless the cell sets one; without an
instrument to ask, it plays at full volume. -/
def Cell.voice (cell : Cell) (lead : Lead) (defaultVolume : UInt8 → Option UInt8) :
    Except Fault Voice :=
  match cell.note with
  | none => .ok { volume := cell.volume, effect := cell.effect }
  | some column =>
    (noteOf lead column.note).map fun note =>
      let sounds :=
        match lead with
        | .note => (note matches some (.index _))
        | .kit => column.instrument != 0 && column.note != Sound.noteCut
      let ownVolume :=
        if column.instrument = 0 then Sound.fullVolume
        else (defaultVolume column.instrument).getD Sound.fullVolume
      { note := note
        instrument := column.instrument
        volume := if sounds then some (cell.volume.getD ownVolume) else cell.volume
        effect := cell.effect }

end Chiptune.ScreamTracker

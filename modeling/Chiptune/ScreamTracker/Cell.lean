import Chiptune.Channel
import Chiptune.Format

/-!
# Scream Tracker cells

A cell carries what a pattern says about one channel in one row. The cell of
the first channel that carries nothing cannot occur as such and marks the end
of a row.

In a packed pattern a cell is a header byte with the channel and a bit for each
field, followed by the fields; `Cell.pack` gives these bytes.
-/

namespace Chiptune.ScreamTracker

/-- A note with its instrument; instrument zero means none. -/
structure NoteColumn where
  note : UInt8
  instrument : UInt8
deriving DecidableEq, Repr

/-- What a pattern says about one channel in one row. -/
structure Cell where
  channel : Channel := .pulse1
  note : Option NoteColumn := none
  volume : Option UInt8 := none
  effect : Option Effect := none
deriving DecidableEq, Repr

namespace Cell

def endOfRow : Cell := {}

def isEndOfRow (cell : Cell) : Bool := cell = endOfRow

def isSilent (cell : Cell) : Bool :=
  cell.note.isNone && cell.volume.isNone && cell.effect.isNone

/-- Header bit: note and instrument follow. -/
def noteFlag : UInt8 := 0x20
/-- Header bit: a volume follows. -/
def volumeFlag : UInt8 := 0x40
/-- Header bit: an effect follows. -/
def effectFlag : UInt8 := 0x80
def channelMask : UInt8 := 0x1F

def header (cell : Cell) : UInt8 :=
  UInt8.ofNat cell.channel.index |||
    (if cell.note.isSome then noteFlag else 0) |||
    (if cell.volume.isSome then volumeFlag else 0) |||
    (if cell.effect.isSome then effectFlag else 0)

def pack (cell : Cell) : List UInt8 :=
  cell.header ::
    ((cell.note.elim [] fun column => [column.note, column.instrument]) ++
      cell.volume.toList ++
      cell.effect.elim [] fun effect => [effect.command, effect.param])

end Cell

end Chiptune.ScreamTracker

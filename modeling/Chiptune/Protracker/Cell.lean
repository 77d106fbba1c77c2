import Chiptune.Protracker.Period
import Chiptune.Voice

/-!
# Protracker cells

A cell is four bytes: the sample number is split over the high nibbles of the
first and third, the period fills the rest of the first two, and the effect
takes the remaining three nibbles. "Set volume" is an effect in the file and
becomes the volume of the voice.
-/

namespace Chiptune.Protracker

/-- One channel of one row. -/
structure Cell where
  /-- Sample number from one; zero means none. -/
  sample : UInt8
  /-- Period of the note; zero means none. -/
  period : Nat
  effect : Effect
deriving DecidableEq, Repr

def setVolume : UInt8 := 0xC

namespace Cell

def ofBytes (b₀ b₁ b₂ b₃ : UInt8) : Cell where
  sample := (b₀ &&& (0xF0 : UInt8)) ||| (b₂ >>> 4)
  period := 256 * (b₀.toNat % 16) + b₁.toNat
  effect := ⟨b₂ &&& 0x0F, b₃⟩

def hasEffect (cell : Cell) : Bool := cell.effect.command != 0 || cell.effect.param != 0

/-- The voice that a cell asks for. The period is checked on every channel, also
where the pitch does not matter. -/
def voice (cell : Cell) (lead : Lead) : Except Fault Voice :=
  (noteOfPeriod cell.period).map fun note => {
    note := match lead with
      | .note => note.map .index
      | .kit => none
    instrument := cell.sample
    volume := if cell.effect.command = setVolume then some cell.effect.param else none
    effect :=
      if cell.effect.command = setVolume then none
      else if cell.hasEffect then some cell.effect
      else none }

end Cell

end Chiptune.Protracker

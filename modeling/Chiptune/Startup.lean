import Chiptune.ScreamTracker.Tune

/-!
# Start-up streams

Before the first row the player reads a stream of items: the speed, the panning
of the four channels, and samples for the wave channel. Each item starts with
its tag, and tag zero ends the stream. `encode` writes such a stream and
`decode?` reads it.

A wave sample is an instrument in one of eight slots. It has 32 or 64 bytes, of
which the player keeps the high nibbles, two to a byte.
-/

namespace Chiptune

open ScreamTracker

/-- An item of the start-up stream. -/
inductive StartupItem where
  | speed (ticks : UInt8)
  | panning (masks : PerChannel UInt8)
  /-- A wave sample: its slot with a bit for the long form, and its nibbles. -/
  | wave (flag : UInt8) (packed : List UInt8)
deriving DecidableEq, Repr

namespace StartupItem

def longFlag : UInt8 := 0x80

def toBytes : StartupItem → List UInt8
  | speed ticks => [1, ticks]
  | panning masks => 2 :: masks.toList
  | wave flag packed => 3 :: flag :: packed

def packedLength (flag : UInt8) : Nat := if flag &&& longFlag != 0 then 32 else 16

def encode (items : List StartupItem) : List UInt8 := items.flatMap toBytes ++ [0]

def decode? : List UInt8 → Option (List StartupItem)
  | [0] => some []
  | 1 :: ticks :: rest => (decode? rest).map (speed ticks :: ·)
  | 2 :: a :: b :: c :: d :: rest => (decode? rest).map (panning ⟨a, b, c, d⟩ :: ·)
  | 3 :: flag :: rest =>
    if packedLength flag ≤ rest.length then
      (decode? (rest.drop (packedLength flag))).map
        (wave flag (rest.take (packedLength flag)) :: ·)
    else none
  | _ => none
termination_by bytes => bytes.length
decreasing_by all_goals simp only [List.length_drop, List.length_cons]; omega

end StartupItem

def waveNumbers : List UInt8 := [8, 9, 10, 11, 12, 13, 14, 15]

def shortWave : Nat := 32

def longWave : Nat := 64

/-- The high nibbles of samples, two to a byte. -/
def packNibbles : List UInt8 → List UInt8
  | a :: b :: rest => ((a &&& (0xF0 : UInt8)) ||| (b >>> 4)) :: packNibbles rest
  | _ => []

/-- The flag of a wave sample, if its length is one that the player has. -/
def waveFlag? (number : UInt8) (length : Nat) : Option UInt8 :=
  let slot := (number - 8) &&& (0x07 : UInt8)
  if length = shortWave then some slot
  else if length = longWave then some (slot ||| StartupItem.longFlag)
  else none

def waveItem (image : Image) (number : UInt8) (instrument : Instrument) :
    Except Malformed StartupItem := do
  let sample ← instrument.sample image
  match waveFlag? number sample.length with
  | none => .error (.waveLength number.toNat instrument.name sample.length)
  | some flag => .ok (.wave flag (packNibbles sample))

def waveBytes (image : Image) (number : UInt8) (instrument : Instrument) :
    Except Malformed (List UInt8) :=
  (waveItem image number instrument).map fun item => item.toBytes.tail

end Chiptune

import Chiptune.Channel
import Chiptune.Fault

/-!
# Notes, volumes, speeds and pans

The player counts the notes of its six octaves from zero. A Scream Tracker note
has its octave in the high nibble and its semitone in the low one, and the
player's first note is that tracker's C-2. A note cut is no pitch and keeps its
byte.

A tracker volume runs from 0 to 64. Three channels have sixteen output levels;
the wave channel has five, numbered in the order of its volume register.

A speed is a number of ticks per row. Songs written for 50 ticks a second keep
their pace at 60 when their speeds grow by a fifth. Row numbers in pattern
breaks are stored as two decimal digits.

The panning register has a bit for each channel and side: the left ones in its
high nibble, the right ones in its low nibble. A tracker's pan position, 0 to
15, switches on one side or both.
-/

namespace Chiptune.Sound

/-- The byte of a note cut, the same in patterns and in commands. -/
def noteCut : UInt8 := 0xFE

def lowestNote : UInt8 := 32

def noteCount : Nat := 72

def noteIndex (note : UInt8) : Except Fault UInt8 :=
  if note = noteCut then .ok noteCut
  else if 0x7F < note then .error .noteTooHigh
  else if note < lowestNote then .error .noteTooLow
  else
    let semitone := (note - lowestNote) &&& 0x0F
    let octave := (note - lowestNote) >>> 4
    if 12 ≤ semitone then .error (.invalidNote note)
    else if noteCount ≤ (semitone + octave * 12).toNat then .error .noteTooHigh
    else .ok (semitone + octave * 12)

/-- Volume of a note that has nothing else to say how loud it is. -/
def fullVolume : UInt8 := 64

/-- One of sixteen levels; volumes above the loudest stay at it. -/
def level (volume : UInt8) : UInt8 := min (volume >>> 2) 15

def waveLevel (volume : UInt8) : UInt8 :=
  let l := level volume
  if l ≤ 3 then 0
  else if l ≤ 6 then 3
  else if l ≤ 9 then 2
  else if l ≤ 12 then 4
  else 1

/-- The speed in ticks of the player; `convert` says that the song counts in
fiftieths of a second. -/
def playerSpeed (speed : UInt8) (convert : Bool) : UInt8 :=
  if convert then UInt8.ofNat (min (speed.toNat * 60 / 50) 255) else speed

/-- The number written as two decimal digits, one in each nibble. -/
def ofDecimalDigits (b : UInt8) : UInt8 := (b >>> 4) * 10 + (b &&& 0x0F)

def centre : UInt8 := 8

def leftBit : Channel → UInt8
  | .pulse1 => 0x10
  | .pulse2 => 0x20
  | .wave => 0x40
  | .noise => 0x80

def rightBit : Channel → UInt8
  | .pulse1 => 0x01
  | .pulse2 => 0x02
  | .wave => 0x04
  | .noise => 0x08

def panMask (c : Channel) (pan : UInt8) : UInt8 :=
  if pan ≤ 3 then leftBit c
  else if pan ≤ 11 then leftBit c ||| rightBit c
  else rightBit c

end Chiptune.Sound

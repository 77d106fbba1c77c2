import Chiptune.Text.Quoted

/-!
# Why a cell cannot be played

The player is strict: a cell that it cannot reproduce is a fault, and a fault
stops the whole conversion at the place of that cell.
-/

namespace Chiptune

open Text

/-- Why one channel's fields of one row have no command. -/
inductive Fault where
  | zeroSpeed
  | unsupportedEffect (letter : Char) (param : UInt8)
  | volumeSlideOnWave
  | fineVolumeSlide
  | volumeSlideTooSteep
  | invalidVolumeSlide (param : UInt8)
  | noteTooLow
  | noteTooHigh
  | invalidNote (note : UInt8)
  | cutWithKit
deriving DecidableEq, Repr

namespace Fault

def message : Fault → String
  | zeroSpeed => "Speed must not be zero"
  | unsupportedEffect letter param =>
    "Unsupported effect: " ++ letter.toString ++ Hexadecimal.byte param
  | volumeSlideOnWave => "Volume slide not supported in channel 3"
  | fineVolumeSlide => "Fine volume slide not supported"
  | volumeSlideTooSteep => "Volume slide too steep"
  | invalidVolumeSlide param => "Invalid volume slide arguments: " ++ Hexadecimal.byte param
  | noteTooLow => "Note too low"
  | noteTooHigh => "Note too high"
  | invalidNote note => "Invalid note: " ++ Hexadecimal.byte note
  | cutWithKit => "Note cut + Instrument in the same row"

def label : Fault → String
  | zeroSpeed => "ZeroSpeed"
  | unsupportedEffect _ _ => "UnsupportedEffect"
  | volumeSlideOnWave => "VolumeSlideOnWaveChannel"
  | fineVolumeSlide => "FineVolumeSlide"
  | volumeSlideTooSteep => "VolumeSlideTooSteep"
  | invalidVolumeSlide _ => "InvalidVolumeSlide"
  | noteTooLow => "NoteTooLow"
  | noteTooHigh => "NoteTooHigh"
  | invalidNote _ => "InvalidNote"
  | cutWithKit => "NoteCutWithKit"

end Fault

end Chiptune

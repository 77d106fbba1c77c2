import Chiptune.Text.Quoted

/-!
# Why a module or a byte stream is refused

A container is never partially recovered: the first structural defect ends the
conversion. Each defect is a cause with the values that describe it; its
wording is `message`.
-/

namespace Chiptune

open Text

/-- A structural defect of a module image or of a command stream. -/
inductive Malformed where
  /-- An absolute offset lies behind the end of the image. -/
  | offsetPastEnd (offset size : Nat)
  /-- Fewer than `count` bytes remain at `offset`. -/
  | truncatedRead (count offset : Nat)
  /-- The song header lacks its signature. -/
  | songSignature
  /-- The song header lacks the marker behind the name. -/
  | headerMarker
  /-- The song asks for a tempo that the player does not have. -/
  | tempo (found : UInt8)
  /-- The song starts at speed zero. -/
  | initialSpeed
  /-- One of the four playable channels is switched off. -/
  | channelDisabled (number : Nat) (setting : UInt8)
  /-- A sampled instrument lacks its signature. -/
  | instrumentSignature (name : String) (offset : Nat)
  /-- A sample's bytes reach behind the end of the image. -/
  | sampleBounds (name : String) (offset length : Nat)
  /-- A wave instrument is neither short nor long. -/
  | waveLength (number : Nat) (name : String) (length : Nat)
  /-- A packed pattern is shorter than its own length field. -/
  | patternLength (offset size : Nat)
  /-- A packed cell uses a channel that the player does not have. -/
  | channelRange (number : Nat)
  /-- A pattern index is not below the pattern count. -/
  | patternRange (index count : Nat)
  /-- A song plays more orders than its table holds. -/
  | songLength (found : Nat)
  /-- The image is not a four-channel, 31-sample module. -/
  | sampleModuleSignature
  /-- A row has no byte left for a channel's command. -/
  | rowEnds (channel : Nat)
  /-- A row ends inside a channel's command. -/
  | commandTruncated (channel : Nat)
  /-- Bytes remain behind the last channel's command. -/
  | trailingBytes (count : Nat)
  /-- A command has no header. -/
  | commandEmpty (channel : Nat)
  /-- A command has fewer bytes than its header announces. -/
  | commandShort
  /-- No effect has this number. -/
  | unknownOpcode (code : Nat)
deriving DecidableEq, Repr

def Malformed.message : Malformed → String
  | offsetPastEnd offset size =>
    "offset 0x" ++ Hexadecimal.numeral offset ++ " is past the end of the file (0x" ++
      Hexadecimal.numeral size ++ " bytes)"
  | truncatedRead count offset =>
    s!"unexpected end of data reading {count} bytes at offset 0x" ++ Hexadecimal.numeral offset
  | songSignature => "invalid magic (expected 'SCRM')"
  | headerMarker => "invalid header marker (expected 0x1A)"
  | tempo found => s!"tempo must be 150 (found {found})"
  | initialSpeed => "initial speed must not be zero"
  | channelDisabled number setting =>
    s!"channel {number} must be enabled (setting 0x" ++ Hexadecimal.byte setting ++ ")"
  | instrumentSignature name offset =>
    s!"instrument '{name}' at 0x" ++ Hexadecimal.numeral offset ++
      " has an invalid magic (expected 'SCRS')"
  | sampleBounds name offset length =>
    s!"sample '{name}' data (0x" ++ Hexadecimal.numeral offset ++ s!"+{length}) is out of bounds"
  | waveLength number name length =>
    s!"invalid sample length in instrument {number} '{name}' ({length} bytes, expected 32 or 64)"
  | patternLength offset size =>
    "pattern at 0x" ++ Hexadecimal.numeral offset ++ s!" has an invalid length ({size})"
  | channelRange number => s!"channel {number} is used; only channels 1-4 are supported"
  | patternRange index count => s!"pattern {index} out of range ({count} patterns)"
  | songLength found => s!"song length {found} exceeds 128 orders"
  | sampleModuleSignature => "only 4 channel MOD files with 31 samples are supported"
  | rowEnds channel => s!"row ends before channel {channel}"
  | commandTruncated channel => s!"channel {channel} command is truncated"
  | trailingBytes count => s!"{count} trailing bytes after channel 4"
  | commandEmpty channel => s!"channel {channel} command is empty"
  | commandShort => "command shorter than its header"
  | unknownOpcode code => s!"unknown effect id {code}"

end Chiptune

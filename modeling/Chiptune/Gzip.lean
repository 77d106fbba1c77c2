import Chiptune.Image

/-!
# Compressed files

A compressed file shows itself by its first two bytes. Whatever unpacks it is a
parameter of the conversions: a function from the bytes of the file to the bytes
that were packed, or to the reason why there are none.
-/

namespace Chiptune.Gzip

/-- Why a compressed file is refused. -/
inductive Failure where
  /-- The header is not that of a compressed file. -/
  | header
  /-- A text in the header has no end within its limit. -/
  | headerField
  /-- The compressed stream makes no sense. -/
  | stream
  /-- Checksum or size do not fit. -/
  | checksum
  /-- The file ends too early. -/
  | truncated
  /-- Any other reason that a decoder gives. -/
  | refused (words : String)
deriving DecidableEq, Repr

/-- What unpacks compressed files. -/
abbrev Decoder := List UInt8 → Except Failure (Array UInt8)

def signature : List UInt8 := [0x1F, 0x8B]

def isCompressed (image : Image) : Bool := (image.extract 0 2).toList = signature

end Chiptune.Gzip

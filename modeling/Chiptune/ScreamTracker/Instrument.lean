import Chiptune.Image

/-!
# Instruments

An instrument record describes a sample; the sample itself stays in the image.
A song may leave instrument slots empty or fill them with synthesizer
instruments, which the player cannot use: both count as no instrument.
-/

namespace Chiptune.ScreamTracker

def sampledType : UInt8 := 1

/-- The signature "SCRS" of a sampled instrument. -/
def sampleSignature : List UInt8 := [0x53, 0x43, 0x52, 0x53]

/-- A sampled instrument. -/
structure Instrument where
  name : String
  fileName : String
  defaultVolume : UInt8
  length : Nat
  sampleOffset : Nat
deriving DecidableEq, Repr

namespace Instrument

def sample (instrument : Instrument) (image : Image) : Except Malformed (List UInt8) :=
  if instrument.sampleOffset + instrument.length ≤ image.size then
    .ok (image.extract instrument.sampleOffset
      (instrument.sampleOffset + instrument.length)).toList
  else
    .error (.sampleBounds instrument.name instrument.sampleOffset instrument.length)

def ofRecord (image : Image) (offset : Nat) : Except Malformed Instrument := do
  let fileName ← image.text (offset + 0x01) 12
  let paragraph ← image.wide (offset + 0x0D)
  let length ← image.long (offset + 0x10)
  let defaultVolume ← image.byte (offset + 0x1C)
  let name ← image.text (offset + 0x30) 28
  let signature ← image.slice (offset + 0x4C) 4
  if signature = sampleSignature then
    .ok ⟨name, fileName, defaultVolume, length, 16 * paragraph⟩
  else .error (.instrumentSignature name offset)

/-- The instrument at a paragraph of an image; paragraph zero is no place. -/
def load (image : Image) (paragraph : Nat) : Except Malformed (Option Instrument) :=
  if paragraph = 0 then .ok none
  else do
    let type ← image.byte (16 * paragraph)
    if type = sampledType then (ofRecord image (16 * paragraph)).map some
    else .ok none

end Instrument

end Chiptune.ScreamTracker

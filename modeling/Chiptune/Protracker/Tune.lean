import Chiptune.Image
import Chiptune.Protracker.Cell

/-!
# Protracker songs

A song has a fixed layout: its name, 31 sample headers that the player does not
need, the number of orders, the order table, the signature, and the patterns.
A pattern is 64 rows of four cells of four bytes.
-/

namespace Chiptune.Protracker

/-- The signature "M.K." of a song. -/
def songSignature : List UInt8 := [0x4D, 0x2E, 0x4B, 0x2E]

def signatureOffset : Nat := 1080

def patternsOffset : Nat := 1084

def rowsPerPattern : Nat := 64

def orderSlots : Nat := 128

/-- A song read from an image. -/
structure Tune where
  image : Image
  name : String
  length : Nat
  table : List UInt8
deriving DecidableEq, Repr

def rowOfBytes (bytes : List UInt8) : PerChannel Cell :=
  .ofFn fun c =>
    let nth k := bytes.getD (4 * c.index + k) 0
    Cell.ofBytes (nth 0) (nth 1) (nth 2) (nth 3)

def rowOffset (pattern row : Nat) : Nat := patternsOffset + 1024 * pattern + 16 * row

namespace Tune

def parse (image : Image) : Except Malformed Tune := do
  let name ← image.text 0 20
  let _ ← image.slice 20 930
  let length ← image.byte 950
  if orderSlots < length.toNat then .error (.songLength length.toNat)
  else do
    let _ ← image.slice 951 1
    let table ← image.slice 952 orderSlots
    let signature ← image.slice signatureOffset 4
    if signature = songSignature then .ok ⟨image, name, length.toNat, table⟩
    else .error .sampleModuleSignature

def orders (tune : Tune) : List Nat := (tune.table.take tune.length).map UInt8.toNat

/-- How many patterns the image stores: the table names the last of them. -/
def patternCount (tune : Tune) : Nat :=
  tune.table.foldl (fun count entry => max count (entry.toNat + 1)) 0

/-- The cells of a row; each cell is read by itself, so an image that ends inside
a row is refused at the cell that it cuts. -/
def row (tune : Tune) (pattern row : Nat) : Except Malformed (PerChannel Cell) := do
  let offset := rowOffset pattern row
  let b₁ ← tune.image.slice offset 4
  let b₂ ← tune.image.slice (offset + 4) 4
  let b₃ ← tune.image.slice (offset + 8) 4
  let b₄ ← tune.image.slice (offset + 12) 4
  pure (rowOfBytes (b₁ ++ b₂ ++ b₃ ++ b₄))

end Tune

end Chiptune.Protracker

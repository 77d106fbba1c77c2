import Chiptune.Image

/-!
# Reading an image in sequence

A cursor is an image and a position in it. A read takes the bytes at the
position and moves behind them; a read that fails stays where it was. The one
exception is the 24-bit number, which is read in two steps: if its low word is
missing, the cursor has already passed its high byte.

`Step` names the operations and `run` carries one out, so that a sequence of
reads is a list of steps.
-/

namespace Chiptune

/-- A position in an image. -/
structure Cursor where
  image : Image
  position : Nat
deriving DecidableEq, Repr

/-- One operation of a cursor. -/
inductive Cursor.Step where
  | byte
  | word
  | long
  | wide
  | bytes (count : Nat)
  | text (count : Nat)
  | skip (count : Nat)
  | seek (offset : Nat)
deriving DecidableEq, Repr

/-- What a step reads. -/
inductive Cursor.Value where
  | number (n : Nat)
  | bytes (content : List UInt8)
  | text (content : String)
  | nothing
deriving DecidableEq, Repr

namespace Cursor

def start (image : Image) : Cursor := ⟨image, 0⟩

def isAtEnd (c : Cursor) : Bool := c.image.size ≤ c.position

/-- Move to an absolute offset, the end of the image included. -/
def seek (c : Cursor) (offset : Nat) : Except Malformed Unit × Cursor :=
  if c.image.size < offset then (.error (.offsetPastEnd offset c.image.size), c)
  else (.ok (), { c with position := offset })

def at? (image : Image) (offset : Nat) : Except Malformed Cursor :=
  match (start image).seek offset with
  | (.ok _, c) => .ok c
  | (.error cause, _) => .error cause

/-- Take the next `count` bytes. -/
def take (c : Cursor) (count : Nat) : Except Malformed (List UInt8) × Cursor :=
  match c.image.slice c.position count with
  | .ok bytes => (.ok bytes, { c with position := c.position + count })
  | .error cause => (.error cause, c)

/-- Take the next `count` bytes and interpret them. -/
def takeAs (c : Cursor) (count : Nat) (interpret : List UInt8 → Value) :
    Except Malformed Value × Cursor :=
  let (result, next) := c.take count
  (result.map interpret, next)

/-- Read a 24-bit number: its high byte, then its low word. -/
def wide (c : Cursor) : Except Malformed Value × Cursor :=
  match c.take 1 with
  | (.error cause, next) => (.error cause, next)
  | (.ok high, next) =>
    next.takeAs 2 fun low => .number (littleEndian low + 65536 * littleEndian high)

def run (c : Cursor) : Step → Except Malformed Value × Cursor
  | .byte => c.takeAs 1 fun bytes => .number (littleEndian bytes)
  | .word => c.takeAs 2 fun bytes => .number (littleEndian bytes)
  | .long => c.takeAs 4 fun bytes => .number (littleEndian bytes)
  | .wide => c.wide
  | .bytes count => c.takeAs count .bytes
  | .text count => c.takeAs count fun bytes => .text (Text.field bytes)
  | .skip count => c.takeAs count fun _ => .nothing
  | .seek offset =>
    let (result, next) := c.seek offset
    (result.map fun _ => .nothing, next)

/-- Carry out operations in turn, keeping each result with the cursor after it. -/
def runAll (c : Cursor) : List Step → List (Except Malformed Value × Cursor)
  | [] => []
  | step :: steps =>
    let done := c.run step
    done :: done.2.runAll steps

theorem take_of_le {c : Cursor} {count : Nat} (h : c.position + count ≤ c.image.size) :
    c.take count = (.ok ((c.image.toList.drop c.position).take count),
      { c with position := c.position + count }) := by
  simp [take, Image.slice_eq_ok_iff.2 ⟨h, rfl⟩]

end Cursor

end Chiptune

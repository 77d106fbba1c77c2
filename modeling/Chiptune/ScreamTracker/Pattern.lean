import Chiptune.Image
import Chiptune.ScreamTracker.Cell

/-!
# Packed patterns

A pattern in an image is a length, counting its own two bytes, followed by
packed cells in the order in which they were entered. `unpack` reads such a
stream of cells; it refuses channels that the player does not have, and a cell
that the end of the stream cuts short. A pattern without a place in the image
is 64 empty rows.
-/

namespace Chiptune.ScreamTracker

def rowsPerPattern : Nat := 64

/-- The cells of a pattern, with the ends of its rows among them. -/
structure Pattern where
  cells : List Cell
deriving DecidableEq, Repr

namespace Pattern

def empty : Pattern := ⟨List.replicate rowsPerPattern Cell.endOfRow⟩

def rowCount (p : Pattern) : Nat := p.cells.countP Cell.isEndOfRow

/-- The note and instrument at the front, if the header announces them. -/
def takeNote : Bool → List UInt8 → Option (Option NoteColumn × List UInt8)
  | false, bytes => some (none, bytes)
  | true, note :: instrument :: rest => some (some ⟨note, instrument⟩, rest)
  | true, _ => none

/-- The volume at the front, if the header announces it. -/
def takeVolume : Bool → List UInt8 → Option (Option UInt8 × List UInt8)
  | false, bytes => some (none, bytes)
  | true, volume :: rest => some (some volume, rest)
  | true, [] => none

/-- The effect at the front, if the header announces it. -/
def takeEffect : Bool → List UInt8 → Option (Option Effect × List UInt8)
  | false, bytes => some (none, bytes)
  | true, command :: param :: rest => some (some ⟨command, param⟩, rest)
  | true, _ => none

/-- The fields that a header announces, as a cell of a channel. -/
def takeFields (channel : Channel) (header : UInt8) (bytes : List UInt8) :
    Option (Cell × List UInt8) := do
  let (note, bytes) ← takeNote (header &&& Cell.noteFlag != 0) bytes
  let (volume, bytes) ← takeVolume (header &&& Cell.volumeFlag != 0) bytes
  let (effect, bytes) ← takeEffect (header &&& Cell.effectFlag != 0) bytes
  pure (⟨channel, note, volume, effect⟩, bytes)

/-- The cell that a header starts; `size` is the length of the whole stream,
where reading stops if the cell is cut short. -/
def takeCell (size : Nat) (header : UInt8) (bytes : List UInt8) :
    Except Malformed (Cell × List UInt8) :=
  let number := (header &&& Cell.channelMask).toNat
  match Channel.ofIndex? number with
  | none => .error (.channelRange (number + 1))
  | some channel =>
    match takeFields channel header bytes with
    | none => .error (.truncatedRead 1 size)
    | some taken => .ok taken

theorem takeNote_length {present : Bool} {bytes rest : List UInt8} {note : Option NoteColumn}
    (h : takeNote present bytes = some (note, rest)) : rest.length ≤ bytes.length := by
  unfold takeNote at h
  split at h <;> simp_all
  · simp [← h.2]; omega

theorem takeVolume_length {present : Bool} {bytes rest : List UInt8} {volume : Option UInt8}
    (h : takeVolume present bytes = some (volume, rest)) : rest.length ≤ bytes.length := by
  unfold takeVolume at h
  split at h <;> simp_all

theorem takeEffect_length {present : Bool} {bytes rest : List UInt8} {effect : Option Effect}
    (h : takeEffect present bytes = some (effect, rest)) : rest.length ≤ bytes.length := by
  unfold takeEffect at h
  split at h <;> simp_all
  · simp [← h.2]; omega

theorem takeFields_length {channel : Channel} {header : UInt8} {bytes rest : List UInt8}
    {cell : Cell} (h : takeFields channel header bytes = some (cell, rest)) :
    rest.length ≤ bytes.length := by
  simp only [takeFields, Option.bind_eq_bind, Option.bind_eq_some_iff, Option.pure_def,
    Option.some.injEq, Prod.exists, Prod.mk.injEq] at h
  obtain ⟨note, afterNote, hn, volume, afterVolume, hv, effect, afterEffect, he, -, rfl⟩ := h
  have := takeNote_length hn
  have := takeVolume_length hv
  have := takeEffect_length he
  omega

theorem takeCell_length {size : Nat} {header : UInt8} {bytes rest : List UInt8} {cell : Cell}
    (h : takeCell size header bytes = .ok (cell, rest)) : rest.length ≤ bytes.length := by
  unfold takeCell at h
  simp only [] at h
  split at h
  · simp at h
  split at h
  · simp at h
  · rename_i taken ht
    simp only [Except.ok.injEq] at h
    subst h
    exact takeFields_length ht

/-- Read cells up to the end of the stream, keeping those read so far in
reverse. -/
def unpackOnto (size : Nat) (cells : List Cell) : List UInt8 → Except Malformed (List Cell)
  | [] => .ok cells.reverse
  | header :: bytes =>
    if header = 0 then unpackOnto size (Cell.endOfRow :: cells) bytes
    else
      match _h : takeCell size header bytes with
      | .error cause => .error cause
      | .ok (cell, rest) => unpackOnto size (cell :: cells) rest
termination_by bytes => bytes.length
decreasing_by
  · simp
  · have := takeCell_length ‹_›
    simp
    omega

def unpack (body : List UInt8) : Except Malformed Pattern :=
  (unpackOnto body.length [] body).map Pattern.mk

def pack (p : Pattern) : List UInt8 := p.cells.flatMap Cell.pack

/-- The pattern at a paragraph of an image; paragraph zero is no place. -/
def load (image : Image) (paragraph : Nat) : Except Malformed Pattern :=
  if paragraph = 0 then .ok empty
  else do
    let offset := 16 * paragraph
    let size ← image.word offset
    if size < 2 then .error (.patternLength offset size)
    else unpack (← image.slice (offset + 2) (size - 2))

end Pattern

end Chiptune.ScreamTracker

import Chiptune.Song.Source

/-!
# Writing songs to a sink

A sink has room for a number of bytes. A write that does not fit fills the sink
and fails, and nothing is written after a failure, so what a full sink holds is
the beginning of the whole text.
-/

namespace Chiptune

/-- A place to write to. -/
structure Sink where
  /-- How many more bytes fit; without it, any number. -/
  room : Option Nat
  /-- The bytes written so far. -/
  held : Array UInt8
deriving DecidableEq, Repr

namespace Sink

def empty (room : Option Nat) : Sink := ⟨room, #[]⟩

/-- Write as many bytes as fit; the result tells whether all of them did. -/
def write (s : Sink) (bytes : List UInt8) : Bool × Sink :=
  match s.room with
  | none => (true, { s with held := s.held ++ bytes })
  | some room =>
    (bytes.length ≤ room, ⟨some (room - bytes.length), s.held ++ bytes.take room⟩)

/-- Write texts in turn, up to the first that does not fit. -/
def writeAll (s : Sink) : List String → Bool × Sink
  | [] => (true, s)
  | text :: texts =>
    match s.write text.toUTF8.toList with
    | (true, s) => s.writeAll texts
    | (false, s) => (false, s)

def writeSong (s : Sink) (song : Song) : Bool × Sink := s.writeAll song.sourceLines

/-- Write songs in turn, up to the first that does not fit. -/
def writeSongs (s : Sink) : List Song → Bool × Sink
  | [] => (true, s)
  | song :: songs =>
    match s.writeSong song with
    | (true, s) => s.writeSongs songs
    | (false, s) => (false, s)

end Sink

end Chiptune

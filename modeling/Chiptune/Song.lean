/-!
# Compiled songs

A compiled song is what the player is given: the commands of each exported
pattern, row by row, the start-up stream, and the order in which patterns are
played.
-/

namespace Chiptune

/-- The commands of a pattern. -/
structure Song.Pattern where
  /-- The index of the pattern in its module. -/
  index : Nat
  /-- The bytes of each row. -/
  rows : List (List UInt8)
deriving DecidableEq, Repr

/-- A compiled song. -/
structure Song where
  /-- What the names in generated source start with. -/
  name : String
  patterns : List Song.Pattern
  /-- The start-up stream, if the format has one. -/
  startup : Option (List UInt8)
  /-- The index of each played pattern. -/
  orders : List Nat
deriving DecidableEq, Repr

namespace Song

def Pattern.size (p : Pattern) : Nat := p.rows.flatten.length

def pattern? (song : Song) (index : Nat) : Option Pattern :=
  song.patterns.find? (·.index = index)

def patternBytes (song : Song) : Nat := (song.patterns.flatMap (·.rows.flatten)).length

end Song

end Chiptune

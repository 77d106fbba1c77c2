/-!
# Bits and code trees

A compressed stream is read bit by bit, the least significant bit of each byte
first. A bit source holds what is left of the current byte and the bytes behind
it. Numbers come with their least significant bit first too.

Symbols are spelled by bit strings none of which starts another. A code tree
has the symbols at its leaves, and a bit chooses a branch. The trees of a
compressed stream are given by the length of each symbol's spelling alone:
shorter spellings come first, spellings of one length are in the order of their
symbols, and each is the successor of the one before.
-/

namespace Chiptune.Gzip

/-- The bits of a byte, least significant first. -/
def bitsOf (b : UInt8) : List Bool := (List.range 8).map b.toNat.testBit

/-- A stream of bits. -/
structure BitSource where
  pending : List Bool
  bytes : List UInt8
deriving DecidableEq, Repr

namespace BitSource

def ofBytes (bytes : List UInt8) : BitSource := ⟨[], bytes⟩

def size (s : BitSource) : Nat := s.pending.length + 8 * s.bytes.length

def next? (s : BitSource) : Option (Bool × BitSource) :=
  match s.pending with
  | bit :: pending => some (bit, { s with pending := pending })
  | [] =>
    match s.bytes with
    | [] => none
    | b :: bytes => some (b.toNat.testBit 0, ⟨(bitsOf b).tail, bytes⟩)

/-- The next number of `count` bits. -/
def number? : Nat → BitSource → Option (Nat × BitSource)
  | 0, s => some (0, s)
  | count + 1, s => do
    let (bit, s) ← s.next?
    let (rest, s) ← number? count s
    pure (bit.toNat + 2 * rest, s)

def align (s : BitSource) : BitSource := ⟨[], s.bytes⟩

/-- The next `count` whole bytes, from the next byte on. -/
def bytes? (count : Nat) (s : BitSource) : Option (List UInt8 × BitSource) :=
  if count ≤ s.bytes.length then some (s.bytes.take count, ⟨[], s.bytes.drop count⟩)
  else none

end BitSource

/-- Symbols spelled by bits. -/
inductive CodeTree where
  | nothing
  | leaf (symbol : Nat)
  | branch (zero one : CodeTree)
deriving DecidableEq, Repr

namespace CodeTree

def insert : List Bool → Nat → CodeTree → CodeTree
  | [], symbol, _ => .leaf symbol
  | bit :: bits, symbol, .branch zero one =>
    if bit then .branch zero (insert bits symbol one) else .branch (insert bits symbol zero) one
  | bit :: bits, symbol, _ =>
    if bit then .branch .nothing (insert bits symbol .nothing)
    else .branch (insert bits symbol .nothing) .nothing

def decode? : CodeTree → BitSource → Option (Nat × BitSource)
  | .nothing, _ => none
  | .leaf symbol, s => some (symbol, s)
  | .branch zero one, s =>
    match s.next? with
    | none => none
    | some (true, s) => one.decode? s
    | some (false, s) => zero.decode? s

/-- The bits of a number, most significant first. -/
def spelling (length code : Nat) : List Bool :=
  ((List.range length).map code.testBit).reverse

/-- The symbols that have a spelling, by its length and then in order. -/
def ranked (lengths : List Nat) : List (Nat × Nat) :=
  (List.range 16).flatMap fun length =>
    if length = 0 then []
    else lengths.zipIdx.filterMap fun (l, symbol) =>
      if l = length then some (symbol, length) else none

/-- Give each symbol the successor of the spelling before it. -/
def assign (tree : CodeTree) (code length : Nat) : List (Nat × Nat) → CodeTree
  | [] => tree
  | (symbol, longer) :: rest =>
    let code := code <<< (longer - length)
    assign (tree.insert (spelling longer code) symbol) (code + 1) longer rest

/-- The share of all bit strings that a spelling of some length starts, in units
of the shortest spelling's share. -/
def share (length : Nat) : Nat := if length = 0 then 0 else 1 <<< (15 - length)

/-- The share of the spellings together when nothing is left over. -/
def wholeShare : Nat := 1 <<< 15

/-- No symbol, or one that is spelled by a single bit. -/
def isSparse : List (Nat × Nat) → Bool
  | [] => true
  | [(_, length)] => length = 1
  | _ => false

/-- The tree with these spelling lengths. Every bit string must start with a
spelling; `sparse` also admits a tree of no symbol, and one of a single symbol
that leaves the other half of the bit strings without meaning. -/
def ofLengths? (sparse : Bool) (lengths : List Nat) : Option CodeTree :=
  let symbols := ranked lengths
  let shares := lengths.foldl (fun sum length => sum + share length) 0
  if shares = wholeShare ∨ (sparse ∧ isSparse symbols) then
    some (assign .nothing 0 0 symbols)
  else none

end CodeTree

end Chiptune.Gzip

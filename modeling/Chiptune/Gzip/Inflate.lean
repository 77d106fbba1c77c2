import Chiptune.Gzip.CodeTree

/-!
# Inflating

A compressed stream is a sequence of blocks, the last of them marked. A block
holds bytes as they are, or symbols spelled by a fixed pair of trees or by a
pair that the block gives itself. A symbol of the first tree is a byte, the end
of the block, or the length of an earlier stretch of output to repeat; the
distance back to that stretch is spelled by the second tree. What lies before
the first byte of output counts as zeros.

`step` reads one block header or one symbol, and `run` repeats it. Every step
uses up at least one bit, so as many steps as there are bits suffice.
-/

namespace Chiptune.Gzip

namespace Inflate

/-- Between blocks, inside a block, or behind the last block. -/
inductive Place where
  | header
  | body (symbols distances : CodeTree) (last : Bool)
  | finished

/-- Where the stream is read, and the output so far. -/
structure State where
  place : Place
  output : Array UInt8

def behind (last : Bool) : Place := if last then .finished else .header

def fixedSymbolLengths : List Nat :=
  List.replicate 144 8 ++ List.replicate 112 9 ++ List.replicate 24 7 ++ List.replicate 8 8

def fixedDistanceLengths : List Nat := List.replicate 32 5

/-- The order in which a block gives the spelling lengths of its length tree. -/
def lengthOrder : List Nat := [16, 17, 18, 0, 8, 7, 9, 6, 10, 5, 11, 4, 12, 3, 13, 2, 14, 1, 15]

/-- Read `count` numbers of three bits. -/
def triples? : Nat → BitSource → Option (List Nat × BitSource)
  | 0, s => some ([], s)
  | count + 1, s => do
    let (n, s) ← s.number? 3
    let (rest, s) ← triples? count s
    pure (n :: rest, s)

/-- The lengths that a symbol of the length tree adds: itself, or a repetition. -/
def lengthRun? (symbol : Nat) (previous : Option Nat) (s : BitSource) :
    Option (List Nat × BitSource) := do
  if symbol < 16 then pure ([symbol], s)
  else if symbol = 16 then
    let length ← previous
    let (extra, s) ← s.number? 2
    pure (List.replicate (3 + extra) length, s)
  else if symbol = 17 then
    let (extra, s) ← s.number? 3
    pure (List.replicate (3 + extra) 0, s)
  else
    let (extra, s) ← s.number? 7
    pure (List.replicate (11 + extra) 0, s)

/-- Read spelling lengths until there are `count`; `lengths` holds those read so
far in reverse. No repetition may go further, and each symbol adds a length, so
`count` symbols suffice. -/
def lengths? (tree : CodeTree) (count : Nat) :
    Nat → List Nat → BitSource → Option (List Nat × BitSource)
  | fuel, lengths, s =>
    if lengths.length = count then some (lengths.reverse, s)
    else if count < lengths.length then none
    else
      match fuel with
      | 0 => none
      | fuel + 1 => do
        let (symbol, s) ← tree.decode? s
        let (more, s) ← lengthRun? symbol lengths.head? s
        lengths? tree count fuel (more ++ lengths) s

def ownTrees? (s : BitSource) : Option (CodeTree × CodeTree × BitSource) := do
  let (symbols, s) ← s.number? 5
  let (distances, s) ← s.number? 5
  let (given, s) ← s.number? 4
  if 286 < 257 + symbols ∨ 30 < 1 + distances then none
  else
    let (triples, s) ← triples? (4 + given) s
    let ranks := lengthOrder.zip triples
    let lengthTree ← CodeTree.ofLengths? false
      ((List.range 19).map fun symbol => (ranks.lookup symbol).getD 0)
    let count := 258 + symbols + distances
    let (lengths, s) ← lengths? lengthTree count count [] s
    let symbolTree ← CodeTree.ofLengths? true (lengths.take (257 + symbols))
    let distanceTree ← CodeTree.ofLengths? true (lengths.drop (257 + symbols))
    pure (symbolTree, distanceTree, s)

/-- The shortest length of each length symbol from 257, with the number of bits
that add to it. -/
def lengthTable : List (Nat × Nat) := [
  (3, 0), (4, 0), (5, 0), (6, 0), (7, 0), (8, 0), (9, 0), (10, 0), (11, 1), (13, 1), (15, 1),
  (17, 1), (19, 2), (23, 2), (27, 2), (31, 2), (35, 3), (43, 3), (51, 3), (59, 3), (67, 4),
  (83, 4), (99, 4), (115, 4), (131, 5), (163, 5), (195, 5), (227, 5), (258, 0)]

/-- The shortest distance of each distance symbol, with the number of bits that
add to it. -/
def distanceTable : List (Nat × Nat) := [
  (1, 0), (2, 0), (3, 0), (4, 0), (5, 1), (7, 1), (9, 2), (13, 2), (17, 3), (25, 3), (33, 4),
  (49, 4), (65, 5), (97, 5), (129, 6), (193, 6), (257, 7), (385, 7), (513, 8), (769, 8),
  (1025, 9), (1537, 9), (2049, 10), (3073, 10), (4097, 11), (6145, 11), (8193, 12), (12289, 12),
  (16385, 13), (24577, 13)]

/-- The number that a table entry and the bits behind the symbol give. -/
def extended? (table : List (Nat × Nat)) (symbol : Nat) (s : BitSource) :
    Option (Nat × BitSource) := do
  let (base, bits) ← table[symbol]?
  let (extra, s) ← s.number? bits
  pure (base + extra, s)

/-- The byte `distance` before the end of the output. -/
def earlier (output : Array UInt8) (distance : Nat) : UInt8 :=
  if distance ≤ output.size then output.getD (output.size - distance) 0 else 0

/-- Repeat `count` bytes from `distance` before the end; they may overlap what is
being written. -/
def repeatFrom (distance : Nat) : Nat → Array UInt8 → Array UInt8
  | 0, output => output
  | count + 1, output => repeatFrom distance count (output.push (earlier output distance))

/-- Read a block that holds bytes as they are: their number, its complement, and
the bytes. -/
def stored? (last : Bool) (output : Array UInt8) (s : BitSource) :
    Option (State × BitSource) := do
  let (length, s) ← s.align.number? 16
  let (complement, s) ← s.number? 16
  if length + complement = 0xFFFF then
    let (bytes, s) ← s.bytes? length
    pure (⟨behind last, output ++ bytes⟩, s)
  else none

/-- Read a block header, with the whole block if it is stored. -/
def header? (output : Array UInt8) (s : BitSource) : Option (State × BitSource) := do
  let (last, s) ← s.next?
  let (kind, s) ← s.number? 2
  match kind with
  | 0 => stored? last output s
  | 1 => do
    let symbols ← CodeTree.ofLengths? false fixedSymbolLengths
    let distances ← CodeTree.ofLengths? false fixedDistanceLengths
    pure (⟨.body symbols distances last, output⟩, s)
  | 2 => do
    let (symbols, distances, s) ← ownTrees? s
    pure (⟨.body symbols distances last, output⟩, s)
  | _ => none

def symbol? (symbols distances : CodeTree) (last : Bool) (output : Array UInt8)
    (s : BitSource) : Option (State × BitSource) := do
  let (symbol, s) ← symbols.decode? s
  if symbol < 256 then
    pure (⟨.body symbols distances last, output.push (UInt8.ofNat symbol)⟩, s)
  else if symbol = 256 then pure (⟨behind last, output⟩, s)
  else
    let (length, s) ← extended? lengthTable (symbol - 257) s
    let (code, s) ← distances.decode? s
    let (distance, s) ← extended? distanceTable code s
    pure (⟨.body symbols distances last, repeatFrom distance length output⟩, s)

def step? (state : State) (s : BitSource) : Option (State × BitSource) :=
  match state.place with
  | .header => header? state.output s
  | .body symbols distances last => symbol? symbols distances last state.output s
  | .finished => none

def run? : Nat → State → BitSource → Option (Array UInt8 × BitSource)
  | fuel, state, s =>
    match state.place with
    | .finished => some (state.output, s)
    | _ =>
      match fuel with
      | 0 => none
      | fuel + 1 =>
        match step? state s with
        | none => none
        | some (state, s) => run? fuel state s

end Inflate

/-- The output of a compressed stream, and the bytes behind it. -/
def inflate? (bytes : List UInt8) : Option (Array UInt8 × List UInt8) :=
  let s := BitSource.ofBytes bytes
  (Inflate.run? (s.size + 1) ⟨.header, #[]⟩ s).map fun (output, rest) => (output, rest.bytes)

end Chiptune.Gzip

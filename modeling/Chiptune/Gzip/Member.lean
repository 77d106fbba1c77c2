import Chiptune.Gzip
import Chiptune.Gzip.Inflate

/-!
# A decoder

A compressed file starts with its signature. Its header has ten fixed bytes, the
fourth of which says which optional fields follow: extra data, a name, a comment,
and a checksum of the header itself. Behind the compressed stream stand the
checksum and the size of its output. Only the first member of a file is read, and
whatever follows it is ignored.
-/

namespace Chiptune.Gzip

def crcBit (register : UInt32) : UInt32 :=
  if register &&& 1 = 1 then (register >>> 1) ^^^ 0xEDB88320 else register >>> 1

def crcByte (register : UInt32) (b : UInt8) : UInt32 :=
  Nat.repeat crcBit 8 (register ^^^ b.toUInt32)

/-- The cyclic redundancy check of 32 bits, least significant bit first. -/
def crc (bytes : Array UInt8) : UInt32 :=
  bytes.foldl crcByte 0xFFFFFFFF ^^^ 0xFFFFFFFF

def sizeModulus : Nat := 4294967296

def fieldLimit : Nat := 65535

/-- The bytes behind `count` header bytes. -/
def skip (count : Nat) (bytes : List UInt8) : Except Failure (List UInt8) :=
  if count ≤ bytes.length then .ok (bytes.drop count) else .error .truncated

/-- The bytes behind a header text, which ends at a zero byte. -/
def skipText (bytes : List UInt8) : Except Failure (List UInt8) :=
  let rest := bytes.dropWhile (· != 0)
  if fieldLimit < bytes.length - rest.length then .error .headerField
  else skip 1 rest

def skipIf (present : Bool) (skipper : List UInt8 → Except Failure (List UInt8))
    (bytes : List UInt8) : Except Failure (List UInt8) :=
  if present then skipper bytes else .ok bytes

/-- The bytes behind extra data, which starts with its length. -/
def skipExtra (bytes : List UInt8) : Except Failure (List UInt8) := do
  let rest ← skip 2 bytes
  skip (littleEndian (bytes.take 2)) rest

def skipHeaderChecksum (whole bytes : List UInt8) : Except Failure (List UInt8) := do
  let rest ← skip 2 bytes
  let covered := whole.take (whole.length - bytes.length)
  if littleEndian (bytes.take 2) = (crc covered.toArray).toNat % 65536 then .ok rest
  else .error .checksum

def skipHeader (bytes : List UInt8) : Except Failure (List UInt8) := do
  let rest ← skip 10 bytes
  let flags := bytes.getD 3 0
  if bytes.take 2 ≠ signature ∨ bytes.getD 2 0 ≠ 8 ∨ 0x20 ≤ flags then .error .header
  else
    let rest ← skipIf (flags &&& 4 != 0) skipExtra rest
    let rest ← skipIf (flags &&& 8 != 0) skipText rest
    let rest ← skipIf (flags &&& 16 != 0) skipText rest
    skipIf (flags &&& 2 != 0) (skipHeaderChecksum bytes) rest

/-- The decoder that comes with the library. -/
def gunzip : Decoder := fun bytes => do
  let stream ← skipHeader bytes
  match inflate? stream with
  | none => .error .stream
  | some (output, trailer) =>
    if trailer.length < 8 then .error .truncated
    else if littleEndian (trailer.take 4) = (crc output).toNat ∧
        littleEndian ((trailer.drop 4).take 4) = output.size % sizeModulus then .ok output
    else .error .checksum

end Chiptune.Gzip

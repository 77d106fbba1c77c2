/-!
# Decoding bytes as UTF-8

Text fields of a module hold whatever bytes the musician's program wrote. They
are read as UTF-8; a lead byte together with the continuation bytes that could
still belong to its character, but do not complete it, is one invalid part, and
each invalid part becomes one replacement character. Decoding therefore never
fails.
-/

namespace Chiptune.Text.Utf8

def replacement : Char := '\uFFFD'

/-- How many bytes a character with this lead byte has; zero if no character
starts with it. -/
def announced (lead : UInt8) : Nat :=
  if lead < 0x80 then 1
  else if lead < 0xC2 then 0
  else if lead < 0xE0 then 2
  else if lead < 0xF0 then 3
  else if lead < 0xF5 then 4
  else 0

def isContinuation (b : UInt8) : Bool := 0x80 ≤ b && b ≤ 0xBF

/-- The second byte of a character: the lead byte narrows it so that no
character has a longer spelling than needed, none is a surrogate and none lies
past the last code point. -/
def isSecond (lead b : UInt8) : Bool :=
  if lead = 0xE0 then 0xA0 ≤ b && b ≤ 0xBF
  else if lead = 0xED then 0x80 ≤ b && b ≤ 0x9F
  else if lead = 0xF0 then 0x90 ≤ b && b ≤ 0xBF
  else if lead = 0xF4 then 0x80 ≤ b && b ≤ 0x8F
  else isContinuation b

/-- The bytes after the lead byte that belong to its part, at most `count`. -/
def continuation (lead : UInt8) (count : Nat) : List UInt8 → List UInt8
  | [] => []
  | b :: rest =>
    if count = 0 then []
    else if isSecond lead b then b :: (rest.take (count - 1)).takeWhile isContinuation
    else []

def leadBits (lead : UInt8) : Nat :=
  match announced lead with
  | 2 => lead.toNat % 32
  | 3 => lead.toNat % 16
  | 4 => lead.toNat % 8
  | _ => lead.toNat

/-- The code point spelled by a lead byte and its continuation bytes. -/
def codePoint (lead : UInt8) (tail : List UInt8) : Nat :=
  tail.foldl (fun n b => 64 * n + b.toNat % 64) (leadBits lead)

/-- The first character of `lead :: rest`, and how many bytes of `rest` it or
its invalid part takes. -/
def first (lead : UInt8) (rest : List UInt8) : Char × Nat :=
  match announced lead with
  | 0 => (replacement, 0)
  | n + 1 =>
    let tail := continuation lead n rest
    if tail.length = n then (Char.ofNat (codePoint lead tail), n)
    else (replacement, tail.length)

def decode : List UInt8 → List Char
  | [] => []
  | lead :: rest => (first lead rest).1 :: decode (rest.drop (first lead rest).2)
termination_by bytes => bytes.length
decreasing_by simp only [List.length_drop, List.length_cons]; omega

@[simp] theorem decode_nil : decode [] = [] := by simp [decode]

theorem decode_cons (lead : UInt8) (rest : List UInt8) :
    decode (lead :: rest) =
      (first lead rest).1 :: decode (rest.drop (first lead rest).2) := by
  rw [decode]

end Chiptune.Text.Utf8

/-!
# Scanning JSON text

Readers for a prefix of a text, each returning what it read and the rest, or
nothing if the text breaks the grammar. Values that nobody asks for are only
scanned: their strings may hold escapes that stand for no character, and their
numbers and nesting have no limit.

A string is read as pieces, characters and code units of two bytes; `text?`
joins surrogate pairs and fails on a lone half.
-/

namespace Chiptune.Json.Scan

def isSpace (c : Char) : Bool := c = ' ' || c = '\t' || c = '\n' || c = '\r'

def skipSpace (text : List Char) : List Char := text.dropWhile isSpace

def expect? (token : List Char) (text : List Char) : Option (List Char) :=
  if token.isPrefixOf text then some (text.drop token.length) else none

/-- A character of a string, or a code unit given by its number. -/
inductive Piece where
  | char (c : Char)
  | codeUnit (n : Nat)
deriving DecidableEq, Repr

/-- The value of a hexadecimal digit in either case. -/
def hexValue? (c : Char) : Option Nat :=
  let n := c.toNat
  if 48 ≤ n ∧ n ≤ 57 then some (n - 48)
  else if 65 ≤ n ∧ n ≤ 70 then some (n - 55)
  else if 97 ≤ n ∧ n ≤ 102 then some (n - 87)
  else none

def codeUnit? (digits : List Char) : Option Nat :=
  (digits.mapM hexValue?).map (·.foldl (16 * · + ·) 0)

def escaped? (c : Char) : Option Char :=
  match c with
  | '"' => some '"'
  | '\\' => some '\\'
  | '/' => some '/'
  | 'b' => some '\x08'
  | 'f' => some '\x0c'
  | 'n' => some '\n'
  | 'r' => some '\r'
  | 't' => some '\t'
  | _ => none

def pieces? : List Char → Option (List Piece × List Char)
  | [] => none
  | '"' :: rest => some ([], rest)
  | '\\' :: 'u' :: a :: b :: c :: d :: rest => do
    let n ← codeUnit? [a, b, c, d]
    let (pieces, rest) ← pieces? rest
    pure (.codeUnit n :: pieces, rest)
  | '\\' :: c :: rest => do
    let c ← escaped? c
    let (pieces, rest) ← pieces? rest
    pure (.char c :: pieces, rest)
  | c :: rest =>
    if c.toNat < 0x20 then none
    else do
      let (pieces, rest) ← pieces? rest
      pure (.char c :: pieces, rest)

def isHighHalf (n : Nat) : Bool := 0xD800 ≤ n && n < 0xDC00

def isLowHalf (n : Nat) : Bool := 0xDC00 ≤ n && n < 0xE000

def joinHalves (high low : Nat) : Char :=
  Char.ofNat (0x10000 + 0x400 * (high - 0xD800) + (low - 0xDC00))

def text? : List Piece → Option (List Char)
  | [] => some []
  | .char c :: rest => (text? rest).map (c :: ·)
  | .codeUnit high :: .codeUnit low :: rest =>
    if isHighHalf high then
      if isLowHalf low then (text? rest).map (joinHalves high low :: ·) else none
    else if isLowHalf high then none
    else (text? (.codeUnit low :: rest)).map (Char.ofNat high :: ·)
  | .codeUnit n :: rest =>
    if isHighHalf n || isLowHalf n then none
    else (text? rest).map (Char.ofNat n :: ·)

/-- A string as text, from its opening quote on. -/
def string? (text : List Char) : Option (String × List Char) := do
  let rest ← expect? ['"'] text
  let (pieces, rest) ← pieces? rest
  let chars ← text? pieces
  pure (String.ofList chars, rest)

def skipDigits? (text : List Char) : Option (List Char) :=
  match text with
  | c :: rest => if c.isDigit then some (rest.dropWhile Char.isDigit) else none
  | [] => none

/-- The text behind the fraction of a number, if it has one. -/
def skipFraction? (text : List Char) : Option (List Char) :=
  match text with
  | '.' :: rest => skipDigits? rest
  | _ => some text

/-- The text behind the exponent of a number, if it has one. -/
def skipExponent? (text : List Char) : Option (List Char) :=
  match text with
  | c :: rest =>
    if c = 'e' ∨ c = 'E' then
      match rest with
      | sign :: digits =>
        if sign = '+' ∨ sign = '-' then skipDigits? digits else skipDigits? rest
      | [] => none
    else some text
  | [] => some text

/-- The text behind a number. No digit may follow a leading zero. -/
def skipNumber? (text : List Char) : Option (List Char) := do
  let unsigned := (expect? ['-'] text).getD text
  let whole ←
    match unsigned with
    | '0' :: rest => if (rest.head?.map Char.isDigit).getD false then none else some rest
    | _ => skipDigits? unsigned
  let fraction ← skipFraction? whole
  skipExponent? fraction

mutual

/-- The text behind a value. Each call, also of the two functions below, uses up
a unit of `fuel`; as many units as twice the characters suffice. -/
def skipValue? : Nat → List Char → Option (List Char)
  | 0, _ => none
  | fuel + 1, text =>
    match skipSpace text with
    | '"' :: rest => (pieces? rest).map (·.2)
    | '[' :: rest =>
      match skipSpace rest with
      | ']' :: rest => some rest
      | rest => skipItems? fuel rest
    | '\x7b' :: rest =>
      match skipSpace rest with
      | '\x7d' :: rest => some rest
      | rest => skipFields? fuel rest
    | 'n' :: rest => expect? ['u', 'l', 'l'] rest
    | 't' :: rest => expect? ['r', 'u', 'e'] rest
    | 'f' :: rest => expect? ['a', 'l', 's', 'e'] rest
    | text => skipNumber? text

/-- The text behind the items of an array and its closing bracket. -/
def skipItems? : Nat → List Char → Option (List Char)
  | 0, _ => none
  | fuel + 1, text => do
    let rest ← skipValue? fuel text
    match skipSpace rest with
    | ',' :: rest => skipItems? fuel rest
    | ']' :: rest => some rest
    | _ => none

/-- The text behind the fields of an object and its closing brace. -/
def skipFields? : Nat → List Char → Option (List Char)
  | 0, _ => none
  | fuel + 1, text => do
    let rest ← expect? ['"'] (skipSpace text)
    let (_, rest) ← pieces? rest
    let rest ← expect? [':'] (skipSpace rest)
    let rest ← skipValue? fuel rest
    match skipSpace rest with
    | ',' :: rest => skipFields? fuel rest
    | '\x7d' :: rest => some rest
    | _ => none

end

def anyValue? (text : List Char) : Option (List Char) :=
  skipValue? (2 * text.length + 2) text

def bool? (text : List Char) : Option (Bool × List Char) :=
  match skipSpace text with
  | 't' :: rest => (expect? ['r', 'u', 'e'] rest).map (true, ·)
  | 'f' :: rest => (expect? ['a', 'l', 's', 'e'] rest).map (false, ·)
  | _ => none

def boolOrNull? (text : List Char) : Option (Option Bool × List Char) :=
  match skipSpace text with
  | 'n' :: rest => (expect? ['u', 'l', 'l'] rest).map (none, ·)
  | text => (bool? text).map fun (b, rest) => (some b, rest)

end Chiptune.Json.Scan

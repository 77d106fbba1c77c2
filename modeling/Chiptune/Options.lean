import Chiptune.Format
import Chiptune.Json.Scan
import Chiptune.Json.Value

/-!
# Conversion options

Two switches change a conversion: whether speeds are converted to the player's
tick rate, which the format decides if nothing is said, and whether wave
instruments are put into the start-up stream.

Options are read from JSON, from an object or from an array in the order of the
switches. Whatever is missing keeps its default and unknown keys are skipped,
but a switch may not be given twice.
-/

namespace Chiptune

/-- The switches of a conversion. -/
structure Options where
  /-- Convert speeds; the format decides if absent. -/
  speedConversion : Option Bool := none
  /-- Put wave instruments into the start-up stream. -/
  exportInstruments : Bool := false
deriving DecidableEq, Repr

namespace Options

open Json Scan

def convertsSpeed (o : Options) (format : Format) : Bool :=
  o.speedConversion.getD format.countsFiftieths

def toJson (o : Options) : Json :=
  .object [
    ("speed_conversion", (o.speedConversion.map .bool).getD .null),
    ("export_instruments", .bool o.exportInstruments)]

/-- The switches read so far. -/
structure Partial where
  speedConversion : Option (Option Bool) := none
  exportInstruments : Option Bool := none
deriving DecidableEq, Repr

def ofPartial (p : Partial) : Options :=
  ⟨p.speedConversion.getD none, p.exportInstruments.getD false⟩

/-- The value of a key, which may only be given once. -/
def field? (key : String) (p : Partial) (text : List Char) : Option (Partial × List Char) :=
  if key = "speed_conversion" then
    if p.speedConversion.isSome then none
    else (boolOrNull? text).map fun (v, rest) => ({ p with speedConversion := some v }, rest)
  else if key = "export_instruments" then
    if p.exportInstruments.isSome then none
    else (bool? text).map fun (v, rest) => ({ p with exportInstruments := some v }, rest)
  else (anyValue? text).map (p, ·)

/-- The fields of an object and its closing brace; a field has characters, so as
many fields as characters suffice. -/
def fields? : Nat → Partial → List Char → Option (Options × List Char)
  | 0, _, _ => none
  | fuel + 1, p, text => do
    let (key, rest) ← string? (skipSpace text)
    let rest ← expect? [':'] (skipSpace rest)
    let (p, rest) ← field? key p rest
    match skipSpace rest with
    | ',' :: rest => fields? fuel p rest
    | '\x7d' :: rest => some (ofPartial p, rest)
    | _ => none

def items? (text : List Char) : Option (Options × List Char) := do
  let (speed, rest) ← boolOrNull? text
  match skipSpace rest with
  | ']' :: rest => some ({ speedConversion := speed }, rest)
  | ',' :: rest =>
    let (instruments, rest) ← bool? rest
    let rest ← expect? [']'] (skipSpace rest)
    some (⟨speed, instruments⟩, rest)
  | _ => none

def value? (text : List Char) : Option (Options × List Char) :=
  match skipSpace text with
  | '\x7b' :: rest =>
    match skipSpace rest with
    | '\x7d' :: rest => some ({}, rest)
    | rest => fields? rest.length {} rest
  | '[' :: rest =>
    match skipSpace rest with
    | ']' :: rest => some ({}, rest)
    | rest => items? rest
  | _ => none

def ofJson? (text : String) : Option Options := do
  let (o, rest) ← value? text.toList
  if (skipSpace rest).isEmpty then some o else none

end Options

end Chiptune

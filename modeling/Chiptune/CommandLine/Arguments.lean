/-!
# Command line arguments

A command declares its options, each with a long name and perhaps a letter, and
its positional arguments. Arguments are read from left to right. A long option
may carry its value behind an equals sign, letters may be joined behind one
hyphen, and a value may follow its letter directly; otherwise the value is the
next argument, which must not look like an option. Two hyphens make everything
behind them positional. No option may be given twice.

Asking for help or for the version ends the reading at once, and so does the
first argument that does not fit.
-/

namespace Chiptune.CommandLine

/-- An option of a command. -/
structure OptionRule where
  long : String
  letter : Option Char := none
  /-- What the option's value must satisfy; an option without it is a switch. -/
  accepts : Option (String → Bool) := none

/-- A positional argument, which must be given. -/
structure PositionalRule where
  accepts : String → Bool

/-- The arguments that a command takes. -/
structure Rules where
  options : List OptionRule
  positionals : List PositionalRule
  exclusive : List (String × String) := []

/-- Why a command does not run. -/
inductive Stop where
  | usage
  | help
  | version
deriving DecidableEq, Repr

/-- The arguments read so far. -/
structure Arguments where
  /-- The options given, by long name, with their values; a switch has none. -/
  given : List (String × String) := []
  positionals : List String := []
deriving DecidableEq, Repr

namespace Arguments

def has (a : Arguments) (long : String) : Bool := a.given.any (·.1 == long)

def value? (a : Arguments) (long : String) : Option String := a.given.lookup long

def positional (a : Arguments) (n : Nat) : String := a.positionals.getD n ""

def give (a : Arguments) (long value : String) : Except Stop Arguments :=
  if a.has long then .error .usage
  else .ok { a with given := a.given ++ [(long, value)] }

end Arguments

namespace Rules

def asked (long : String) : Option Stop :=
  if long = "help" then some .help else if long = "version" then some .version else none

def askedLetter (letter : Char) : Option Stop :=
  if letter = 'h' then some .help else if letter = 'V' then some .version else none

def giveValue (rule : OptionRule) (value : String) (a : Arguments) : Except Stop Arguments :=
  match rule.accepts with
  | none => .error .usage
  | some accepts => if accepts value then a.give rule.long value else .error .usage

def givePositional (r : Rules) (value : String) (a : Arguments) : Except Stop Arguments :=
  match r.positionals[a.positionals.length]? with
  | none => .error .usage
  | some rule =>
    if rule.accepts value then .ok { a with positionals := a.positionals ++ [value] }
    else .error .usage

/-- Joined letters; a letter that wants a value takes the rest, or else leaves its
option open for the next argument. -/
def letters (r : Rules) : List Char → Arguments → Except Stop (Arguments × Option OptionRule)
  | [], a => .ok (a, none)
  | letter :: rest, a =>
    match askedLetter letter with
    | some stop => .error stop
    | none =>
      match r.options.find? (·.letter == some letter) with
      | none => .error .usage
      | some rule =>
        if rule.accepts.isNone then do
          let a ← a.give rule.long ""
          r.letters rest a
        else
          match rest with
          | [] => .ok (a, some rule)
          | '=' :: value => (giveValue rule (String.ofList value) a).map (·, none)
          | value => (giveValue rule (String.ofList value) a).map (·, none)

def splitEquals (text : List Char) : List Char × Option (List Char) :=
  match text.dropWhile (· != '=') with
  | [] => (text, none)
  | _ :: value => (text.takeWhile (· != '='), some value)

/-- A long option, without its hyphens; one that wants a value and has none with
it is left open for the next argument. -/
def longOption (r : Rules) (text : List Char) (a : Arguments) :
    Except Stop (Arguments × Option OptionRule) :=
  let (name, value) := splitEquals text
  match asked (String.ofList name), value with
  | some stop, none => .error stop
  | some _, some _ => .error .usage
  | none, _ =>
    match r.options.find? (·.long == String.ofList name) with
    | none => .error .usage
    | some rule =>
      match value with
      | some value => (giveValue rule (String.ofList value) a).map (·, none)
      | none =>
        if rule.accepts.isNone then (a.give rule.long "").map (·, none)
        else .ok (a, some rule)

def looksLikeOption (argument : List Char) : Bool :=
  argument.head? == some '-' && argument.length != 1

def readFrom (r : Rules) (a : Arguments) : List String → Except Stop Arguments
  | [] => .ok a
  | argument :: rest =>
    match argument.toList with
    | ['-', '-'] => rest.foldlM (fun a value => r.givePositional value a) a
    | '-' :: second :: text =>
      let read := if second = '-' then r.longOption text a else r.letters (second :: text) a
      match read with
      | .error stop => .error stop
      | .ok (a, none) => r.readFrom a rest
      | .ok (a, some rule) =>
        match rest with
        | [] => .error .usage
        | value :: rest =>
          if looksLikeOption value.toList then .error .usage
          else
            match giveValue rule value a with
            | .error stop => .error stop
            | .ok a => r.readFrom a rest
    | _ =>
      match r.givePositional argument a with
      | .error stop => .error stop
      | .ok a => r.readFrom a rest

/-- Read the arguments of a command; nothing that must be given may be missing,
and no two options may exclude each other. -/
def read (r : Rules) (arguments : List String) : Except Stop Arguments := do
  let a ← r.readFrom {} arguments
  if a.positionals.length < r.positionals.length then .error .usage
  else if r.exclusive.any fun (one, other) => a.has one && a.has other then .error .usage
  else .ok a

end Rules

def isPath (text : String) : Bool := !text.isEmpty

def isText (_ : String) : Bool := true

end Chiptune.CommandLine

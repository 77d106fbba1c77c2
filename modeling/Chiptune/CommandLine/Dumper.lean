import Chiptune.CommandLine.Converter
import Chiptune.Song.View

/-!
# The dumper

The command that shows a compiled module as JSON: `<input>`, with options for
the output, the song's name, compact text and the wave instruments. Without an
output file the text is printed. As for the converter, `execute` takes what is not
the command's own as parameters, here also the two printers of JSON, and `run`
carries the command out in a directory in memory.
-/

namespace Chiptune.CommandLine.Dumper

def commandName : String := "gbt2json"

/-- The arguments of the command. -/
structure Request where
  input : String
  output : Option String := none
  name : String := "song"
  exportInstruments : Bool := false
  compact : Bool := false
deriving DecidableEq, Repr

def Request.options (r : Request) : Options := { exportInstruments := r.exportInstruments }

/-- Why the command fails: in the conversion, in printing the view, or at its output. -/
inductive Trouble where
  | conversion (cause : Failure)
  | printing (words : String)
  | output (cause : FileFailure)
deriving DecidableEq, Repr

def Trouble.report : Trouble → String
  | conversion cause => cause.report
  | printing words => "Error" ++ parentheses (Text.Quoted.quote words ++ ", line: 0, column: 0")
  | output cause => cause.report

/-- What prints views as JSON, or says why it cannot. -/
structure Printers where
  compact : SongView → Except String String
  pretty : SongView → Except String String

def Printers.print (p : Printers) (compact : Bool) : SongView → Except String String :=
  if compact then p.compact else p.pretty

/-- The JSON text of a song. -/
def text (p : Printers) (r : Request) (song : Song) : Except Trouble String := do
  let view ← (SongView.ofSong song r.options).mapError fun cause => .conversion (.malformed cause)
  (p.print r.compact view).mapError .printing

def dump (gunzip : Gzip.Decoder) (p : Printers) (r : Request) (content : Array UInt8) :
    Journal Trouble String := do
  let song ← (compileContent gunzip r.options none r.input r.name content).mapError .conversion
  .ofExcept (text p r song)

section

variable {State File : Type} (fs : FileSystem State File)

def deliver (s : State) (r : Request) (json : String) : Ending × State :=
  match r.output with
  | none => (⟨0, json ++ "\n", none⟩, s)
  | some path =>
    match fs.writeTexts s path [json, "\n"] with
    | (.ok _, after) => (⟨0, "", none⟩, after)
    | (.error cause, after) => (failing (Trouble.output cause).report, after)

def perform (gunzip : Gzip.Decoder) (p : Printers) (s : State) (r : Request) : Ending × State :=
  match (fs.read s r.input).mapError Failure.file with
  | .error cause => (failing (Trouble.conversion cause).report, s)
  | .ok content =>
    match (dump gunzip p r content).outcome with
    | .error trouble => (failing trouble.report, s)
    | .ok json => deliver fs s r json

def execute (gunzip : Gzip.Decoder) (p : Printers) (parse : List String → Except Stop Request)
    (s : State) (arguments : List String) : Ending × State :=
  match parse arguments with
  | .error stop => (stop.ending commandName, s)
  | .ok r => perform fs gunzip p s r

end

def rules : Rules where
  positionals := [⟨isPath⟩]
  options := [
    { long := "output", letter := some 'o', accepts := some isPath },
    { long := "name", letter := some 'n', accepts := some isText },
    { long := "export-instruments" },
    { long := "compact", letter := some 'c' }]

def Request.ofArguments (a : Arguments) : Request where
  input := a.positional 0
  output := a.value? "output"
  name := (a.value? "name").getD "song"
  exportInstruments := a.has "export-instruments"
  compact := a.has "compact"

def request (arguments : List String) : Except Stop Request :=
  (rules.read arguments).map Request.ofArguments

def printers : Printers where
  compact view := .ok view.toJson.compact
  pretty view := .ok (view.toJson.pretty 0)

def run (d : Directory) (arguments : List String) : Ending × Directory :=
  execute Directory.fileSystem Gzip.gunzip printers request d arguments

end Chiptune.CommandLine.Dumper

import Chiptune.CommandLine.Arguments
import Chiptune.CommandLine.Report
import Chiptune.Directory

/-!
# The converter

The command that turns a module file into a C file: `<input> <name>`, with
options for the output, the format, the tick rate and the wave instruments.
`execute` takes the files, the decoder of compressed files and the reader of the
arguments as parameters; `run` carries the command out in a directory in memory.
-/

namespace Chiptune.CommandLine

/-- How a command ends, apart from the files it writes. -/
structure Ending where
  exitCode : Nat
  output : String := ""
  complaint : Option String := none
deriving DecidableEq, Repr

def Stop.ending (name : String) : Stop → Ending
  | .usage => ⟨2, "", none⟩
  | .help => ⟨0, "", none⟩
  | .version => ⟨0, name ++ " 0.1.0\n", none⟩

def failing (report : String) : Ending := ⟨1, "", some (errorLine report)⟩

namespace Converter

def commandName : String := "s3m2gbt"

/-- The arguments of the command. -/
structure Request where
  input : String
  name : String
  output : Option String := none
  exportInstruments : Bool := false
  speedConversion : Bool := false
  noSpeedConversion : Bool := false
  format : Option Format := none
deriving DecidableEq, Repr

namespace Request

def options (r : Request) : Options where
  speedConversion :=
    if r.speedConversion then some true
    else if r.noSpeedConversion then some false
    else none
  exportInstruments := r.exportInstruments

/-- The C file is called after the song unless another one is asked for. -/
def outputPath (r : Request) : String := r.output.getD (r.name ++ ".c")

end Request

def ending {α : Type} : Except Failure α → Ending
  | .ok _ => ⟨0, "", none⟩
  | .error cause => failing cause.report

def execute {State File : Type} (fs : FileSystem State File) (gunzip : Gzip.Decoder)
    (parse : List String → Except Stop Request) (s : State) (arguments : List String) :
    Ending × State :=
  match parse arguments with
  | .error stop => (stop.ending commandName, s)
  | .ok r =>
    let (journal, after) := fs.compileFile gunzip s r.options r.format r.input r.outputPath r.name
    (ending journal.outcome, after)

def rules : Rules where
  positionals := [⟨isPath⟩, ⟨isText⟩]
  options := [
    { long := "output", letter := some 'o', accepts := some isPath },
    { long := "export-instruments" },
    { long := "speed-conversion" },
    { long := "no-speed-conversion" },
    { long := "format", letter := some 'f',
      accepts := some fun text => (Format.ofName? text).isSome }]
  exclusive := [("speed-conversion", "no-speed-conversion")]

def Request.ofArguments (a : Arguments) : Request where
  input := a.positional 0
  name := a.positional 1
  output := a.value? "output"
  exportInstruments := a.has "export-instruments"
  speedConversion := a.has "speed-conversion"
  noSpeedConversion := a.has "no-speed-conversion"
  format := (a.value? "format").bind Format.ofName?

def request (arguments : List String) : Except Stop Request :=
  (rules.read arguments).map Request.ofArguments

def run (d : Directory) (arguments : List String) : Ending × Directory :=
  execute Directory.fileSystem Gzip.gunzip request d arguments

end Converter

end Chiptune.CommandLine

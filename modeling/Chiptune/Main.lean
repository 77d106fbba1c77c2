import Chiptune.CommandLine.Dumper

/-!
# The program

The program is the converter, and it is the dumper when it is called by that
name. It reads the input file, prints what happens, and writes the output file;
everything in between is decided by the library.
-/

namespace Chiptune.Program

open CommandLine

def fileFailure : IO.Error → FileFailure
  | .noFileOrDirectory .. => .notFound
  | .inappropriateType .. => .isDirectory
  | cause => .refused (toString cause)

def readFile (path : String) : IO (Except FileFailure (Array UInt8)) := do
  try
    let content ← IO.FS.readBinFile path
    return .ok content.data
  catch cause => return .error (fileFailure cause)

def writeFile (path text : String) : IO (Except FileFailure Unit) := do
  try
    IO.FS.writeFile path text
    return .ok ()
  catch cause => return .error (fileFailure cause)

def eventLines (levels : List Level) (events : List Event) : List String :=
  (events.filter fun event => levels.contains event.level).map fun event =>
    event.level.name ++ ": " ++ event.message

def finish (ending : Ending) : IO UInt32 := do
  IO.print ending.output
  if let some complaint := ending.complaint then IO.eprintln complaint
  return UInt32.ofNat ending.exitCode

def refuse (name : String) (stop : Stop) : IO UInt32 := do
  if stop != .version then IO.eprintln s!"usage: {name} [options] <input> ..."
  finish (stop.ending name)

def convertFile (r : Converter.Request) : IO UInt32 := do
  let tell (events : List Event) : IO Unit :=
    (eventLines [.info, .warn] events).forM IO.println
  match ← readFile r.input with
  | .error cause => finish (failing (Failure.file cause).report)
  | .ok content =>
    let journal := compileContent Gzip.gunzip r.options r.format r.input r.name content
    tell journal.events
    match journal.outcome with
    | .error cause => finish (failing cause.report)
    | .ok song =>
      match ← writeFile r.outputPath song.source with
      | .error cause => finish (failing (Failure.file cause).report)
      | .ok _ =>
        tell [.wrote r.outputPath, .done]
        finish ⟨0, "", none⟩

def dumpFile (r : Dumper.Request) : IO UInt32 := do
  match ← readFile r.input with
  | .error cause => finish (failing (Failure.file cause).report)
  | .ok content =>
    let journal := Dumper.dump Gzip.gunzip Dumper.printers r content
    (eventLines [.warn] journal.events).forM IO.eprintln
    match journal.outcome, r.output with
    | .error trouble, _ => finish (failing trouble.report)
    | .ok json, none => finish ⟨0, json ++ "\n", none⟩
    | .ok json, some path =>
      match ← writeFile path (json ++ "\n") with
      | .error cause => finish (failing (Dumper.Trouble.output cause).report)
      | .ok _ => finish ⟨0, "", none⟩

end Chiptune.Program

open Chiptune CommandLine in
/-- Run the command under whose name the program was called. -/
def main (arguments : List String) : IO UInt32 := do
  let called := (← IO.appPath).fileName.getD ""
  if called == Dumper.commandName then
    match Dumper.request arguments with
    | .error stop => Program.refuse Dumper.commandName stop
    | .ok r => Program.dumpFile r
  else
    match Converter.request arguments with
    | .error stop => Program.refuse Converter.commandName stop
    | .ok r => Program.convertFile r

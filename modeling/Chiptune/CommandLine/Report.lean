import Chiptune.Failure
import Chiptune.Text.Quoted

/-!
# Error reports

When a command fails it prints one line that shows the failure with all its
details, texts between quotes.
-/

namespace Chiptune

open Text.Quoted

def braces (parts : String) : String := " \x7b " ++ parts ++ " \x7d"

def parentheses (part : String) : String := "(" ++ part ++ ")"

def Fault.report (fault : Fault) : String :=
  match fault with
  | unsupportedEffect letter param =>
    fault.label ++ braces (s!"effect: '{letter}', param: {param}")
  | invalidVolumeSlide param => fault.label ++ parentheses (toString param)
  | invalidNote note => fault.label ++ parentheses (toString note)
  | _ => fault.label

def FileFailure.kind : FileFailure → String
  | notFound => "NotFound"
  | notDirectory => "NotADirectory"
  | isDirectory => "IsADirectory"
  | nameTooLong => "InvalidFilename"
  | zeroByte => "InvalidInput"
  | refused _ => "Other"

def FileFailure.report (cause : FileFailure) : String :=
  match cause.number? with
  | some n =>
    "Os" ++ braces (s!"code: {n}, kind: {cause.kind}, message: " ++ quote cause.words)
  | none => "Error" ++ braces (s!"kind: {cause.kind}, message: " ++ quote cause.words)

def Gzip.Failure.report (cause : Gzip.Failure) : String :=
  match cause with
  | truncated => "Kind(UnexpectedEof)"
  | refused words => "Custom" ++ braces ("kind: Other, error: " ++ quote words)
  | _ => "Custom" ++ braces ("kind: InvalidInput, error: " ++ quote cause.message)

def Failure.report : Failure → String
  | malformed cause => "Format" ++ parentheses (quote cause.message)
  | cell place fault =>
    "RowConversion" ++ parentheses ("RowConversionError" ++ braces (
      s!"pattern: {place.pattern}, row: {place.row}, channel: {place.channel.number}, fault: " ++
        fault.report))
  | unknownFormat text => "UnknownFormat" ++ parentheses (quote text)
  | file cause => "Io" ++ parentheses cause.report
  | compressed cause => "Io" ++ parentheses cause.report

def errorLine (report : String) : String := "Error: " ++ report

end Chiptune

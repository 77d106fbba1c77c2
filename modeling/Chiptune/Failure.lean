import Chiptune.Channel
import Chiptune.Fault
import Chiptune.FileSystem
import Chiptune.Gzip
import Chiptune.Malformed

/-!
# Why a conversion fails

A module may be malformed, one of its cells may have no command, its format may
be unknown, or a file may not be readable or writable. A cell's fault is
reported with its place in the song.
-/

namespace Chiptune

/-- The place of a cell in a song. -/
structure Place where
  pattern : Nat
  row : Nat
  channel : Channel
deriving DecidableEq, Repr

/-- Why a conversion fails. -/
inductive Failure where
  | malformed (cause : Malformed)
  | cell (place : Place) (fault : Fault)
  | unknownFormat (text : String)
  | file (cause : FileFailure)
  | compressed (cause : Gzip.Failure)
deriving DecidableEq, Repr

/-- The operating system's number for a failure, if it is one of its own. -/
def FileFailure.number? : FileFailure → Option Nat
  | notFound => some 2
  | notDirectory => some 20
  | isDirectory => some 21
  | nameTooLong => some 36
  | zeroByte | refused _ => none

def FileFailure.words : FileFailure → String
  | notFound => "No such file or directory"
  | notDirectory => "Not a directory"
  | isDirectory => "Is a directory"
  | nameTooLong => "File name too long"
  | zeroByte => "file name contained an unexpected NUL byte"
  | refused words => words

def FileFailure.message (cause : FileFailure) : String :=
  match cause.number? with
  | some n => cause.words ++ s!" (os error {n})"
  | none => cause.words

def Gzip.Failure.message : Gzip.Failure → String
  | header => "invalid gzip header"
  | headerField => "gzip header field too long"
  | stream => "corrupt deflate stream"
  | checksum => "corrupt gzip stream does not have a matching checksum"
  | truncated => "unexpected end of file"
  | refused words => words

def Failure.message : Failure → String
  | malformed cause => "Invalid module: " ++ cause.message
  | cell place fault =>
    s!"Pattern {place.pattern} | Row {place.row} | Channel {place.channel.number} | " ++
      fault.message
  | unknownFormat text => "Unknown module format: " ++ text
  | file cause => "IO error: " ++ cause.message
  | compressed cause => "IO error: " ++ cause.message

end Chiptune

/-!
# File systems

A program reaches its files through four calls of the system that it runs on: it
opens what a path leads to and reads it to its end, and it creates a file at a path
and appends bytes to it. Which paths there are, and which of them lead to the same
file, is known to the system alone, so a file system is a record of these calls. A
path that already leads to a file is created by taking that file and emptying it.
-/

namespace Chiptune

/-- Why a call to the system fails. -/
inductive FileFailure where
  | notFound
  | notDirectory
  | isDirectory
  | nameTooLong
  | zeroByte
  /-- Any other reason that the system gives. -/
  | refused (words : String)
deriving DecidableEq, Repr

/-- The calls that reach files. A call that can change them comes with the state that
it leaves, also where it fails. -/
structure FileSystem (State File : Type) where
  /-- Open what a path leads to, be it a file or a folder. -/
  openFile : State → String → Except FileFailure File
  /-- Read to the end; from a folder nothing can be read. -/
  content : State → File → Except FileFailure (Array UInt8)
  /-- Create the file at a path, or empty the one that is there. -/
  create : State → String → Except FileFailure File × State
  append : State → File → Array UInt8 → Except FileFailure Unit × State

namespace FileSystem

variable {State File : Type} (fs : FileSystem State File)

def read (s : State) (path : String) : Except FileFailure (Array UInt8) := do
  let file ← fs.openFile s path
  fs.content s file

/-- Append texts in turn, up to the first that the system does not take. -/
def appendAll (s : State) (file : File) : List String → Except FileFailure Unit × State
  | [] => (.ok (), s)
  | text :: texts =>
    match fs.append s file text.toUTF8.data with
    | (.error cause, s) => (.error cause, s)
    | (.ok _, s) => appendAll s file texts

/-- Create a file and write texts to it. -/
def writeTexts (s : State) (path : String) (texts : List String) :
    Except FileFailure Unit × State :=
  match fs.create s path with
  | (.error cause, s) => (.error cause, s)
  | (.ok file, s) => fs.appendAll s file texts

end FileSystem

end Chiptune

import Chiptune.Detection
import Chiptune.Protracker.Compile
import Chiptune.ScreamTracker.Compile
import Chiptune.Song.Source

/-!
# Converting modules

`compile` turns an image of a known format into a song, `convert` finds the
format by the signature and gives C source, and `compileFile` works on files:
it reads and decompresses the input, finds its format, compiles it, and only
then creates the output. The files and the decoder of compressed files are
parameters.
-/

namespace Chiptune

/-- The format with a given name, in any case. -/
def Format.parse (name : String) : Except Failure Format :=
  match ofName? name with
  | some format => .ok format
  | none => .error (.unknownFormat (String.ofList (lower name.toList)))

def compile (o : Options) (format : Format) (image : Image) (name : String) :
    Journal Failure Song :=
  match format with
  | .screamTracker => do
    let tune ← .ofExcept ((ScreamTracker.Tune.parse image).mapError .malformed)
    tune.compile o name
  | .protracker => do
    let tune ← .ofExcept ((Protracker.Tune.parse image).mapError .malformed)
    tune.compile o name

/-- The C source of an image whose signature names its format. -/
def convert (name : String) (image : Image) (o : Options) : Journal Failure String :=
  match Format.sniff? image with
  | none => .ofExcept (.error (.unknownFormat "unrecognized module signature"))
  | some format => do
    let song ← compile o format image name
    pure song.source

/-- The image in a file; a compressed file is unpacked, whatever its name. -/
def unpackFile (gunzip : Gzip.Decoder) (path : String) (content : Array UInt8) :
    Journal Failure Image :=
  if Gzip.isCompressed content then do
    let image ← .ofExcept ((gunzip content.toList).mapError .compressed)
    .note (.decompressed path content.size image.size)
    pure image
  else pure content

/-- The format given, or else the one that path and image show. -/
def formatOf (given : Option Format) (path : String) (image : Image) : Except Failure Format :=
  match given.or (Format.detect? path image) with
  | some format => .ok format
  | none => .error (.unknownFormat path)

def compileContent (gunzip : Gzip.Decoder) (o : Options) (given : Option Format)
    (path name : String) (content : Array UInt8) : Journal Failure Song := do
  let image ← unpackFile gunzip path content
  let format ← .ofExcept (formatOf given path image)
  compile o format image name

namespace FileSystem

variable {State File : Type} (fs : FileSystem State File) (gunzip : Gzip.Decoder) (s : State)

def readModule (path : String) : Journal Failure Image := do
  let content ← .ofExcept ((fs.read s path).mapError .file)
  unpackFile gunzip path content

def compileModule (o : Options) (given : Option Format) (path name : String) :
    Journal Failure Song := do
  let content ← .ofExcept ((fs.read s path).mapError .file)
  compileContent gunzip o given path name content

/-- Convert a file and write the C source; the state of the files afterwards comes
with the outcome. -/
def compileFile (o : Options) (given : Option Format) (input output name : String) :
    Journal Failure Song × State :=
  let compiled := fs.compileModule gunzip s o given input name
  match compiled.outcome with
  | .error _ => (compiled, s)
  | .ok song =>
    let (written, after) := fs.writeTexts s output song.sourceLines
    let finished : Journal Failure Song := do
      let song ← compiled
      .ofExcept (written.mapError .file)
      .note (.wrote output)
      pure song
    (finished, after)

end FileSystem

end Chiptune

import Chiptune.Format
import Chiptune.Path
import Chiptune.Protracker.Tune
import Chiptune.ScreamTracker.Tune

/-!
# Finding the format of a module

The extension of the file name decides first, in upper or lower case; the
extension of a compressed file is looked for behind its ".gz". Otherwise the
signature of the image decides.
-/

namespace Chiptune.Format

/-- Lower case of the letters A to Z; other characters stay. -/
def lower (text : List Char) : List Char := text.map Char.toLower

/-- The format that a name stands for, in any case. -/
def ofName? (name : String) : Option Format :=
  let name := lower name.toList
  if name = screamTracker.name.toList then some .screamTracker
  else if name = protracker.name.toList then some .protracker
  else none

def ofPath? (path : List Char) : Option Format :=
  match _h : (Path.fileName? path).bind Path.stemAndExtension? with
  | none => none
  | some (stem, extension) =>
    if lower extension = screamTracker.name.toList then some .screamTracker
    else if lower extension = protracker.name.toList then some .protracker
    else if lower extension = ['g', 'z'] then ofPath? stem
    else none
termination_by path.length
decreasing_by exact Path.length_lt_of_stem ‹_›

/-- The bytes at an offset, if the image has them. -/
def signatureAt (image : Image) (offset : Nat) : Option (List UInt8) :=
  (image.slice offset 4).toOption

def sniff? (image : Image) : Option Format :=
  if signatureAt image ScreamTracker.signatureOffset = some ScreamTracker.songSignature then
    some .screamTracker
  else if signatureAt image Protracker.signatureOffset = some Protracker.songSignature then
    some .protracker
  else none

/-- The format of a module: its path decides, then its signature. -/
def detect? (path : String) (image : Image) : Option Format :=
  (ofPath? path.toList).or (sniff? image)

end Chiptune.Format

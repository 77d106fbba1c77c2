import Chiptune.Conversion
import Chiptune.Gzip.Member

/-!
# A directory in memory

A directory in memory is a file system for a program that is tried without a disk. It
holds files under paths relative to it, and its folders are exactly the ones that
those paths pass through. A path is followed component by component: only a folder
can be entered, single dots and empty components stay, and a double dot goes up. It
stands alone: above the directory and at the root nothing is known to exist. Names
and whole paths have a longest length.
-/

namespace Chiptune

/-- The names of a file or folder from the directory down. -/
abbrev Names := List (List Char)

/-- A directory with the files in it. -/
structure Directory where
  files : List (Names × Array UInt8)
deriving DecidableEq, Repr

/-- Where following a path has led. -/
inductive Spot where
  | inside (names : Names)
  /-- Above the directory, or at the root. -/
  | outside
deriving DecidableEq, Repr

namespace Directory

/-- The longest name of a file, in bytes. -/
def longestName : Nat := 255

/-- The longest path, in bytes. -/
def longestPath : Nat := 4095

def file? (d : Directory) (names : Names) : Option (Array UInt8) := d.files.lookup names

def isFolder (d : Directory) (names : Names) : Bool :=
  names.isEmpty || d.files.any fun f => names.isPrefixOf f.1 && names != f.1

def isTooLong (name : List Char) : Bool := longestName < (String.ofList name).utf8ByteSize

def enter (d : Directory) (spot : Spot) (component : List Char) : Except FileFailure Spot :=
  match spot with
  | .outside =>
    if Path.isIdle component || component = Path.parent then .ok .outside
    else if isTooLong component then .error .nameTooLong
    else .error .notFound
  | .inside names =>
    if !d.isFolder names then .error .notDirectory
    else if Path.isIdle component then .ok spot
    else if component = Path.parent then
      .ok (if names.isEmpty then .outside else .inside names.dropLast)
    else if isTooLong component then .error .nameTooLong
    else
      let child := names ++ [component]
      if d.isFolder child || (d.file? child).isSome then .ok (.inside child)
      else .error .notFound

def origin (path : List Char) : Spot :=
  if path.head? = some '/' then .outside else .inside []

def follow (d : Directory) (spot : Spot) (components : List (List Char)) :
    Except FileFailure Spot :=
  components.foldlM d.enter spot

def folder (d : Directory) (spot : Spot) (components : List (List Char)) :
    Except FileFailure Spot := do
  match ← d.follow spot components with
  | .outside => .ok .outside
  | .inside names => if d.isFolder names then .ok (.inside names) else .error .notDirectory

def checkPath (path : String) : Except FileFailure Unit :=
  if path.toList.contains '\x00' then .error .zeroByte
  else if path.isEmpty then .error .notFound
  else if longestPath < path.utf8ByteSize then .error .nameTooLong
  else .ok ()

def openFile (d : Directory) (path : String) : Except FileFailure Spot := do
  checkPath path
  d.follow (origin path.toList) (Path.splitAt '/' path.toList)

def content (d : Directory) : Spot → Except FileFailure (Array UInt8)
  | .outside => .error .isDirectory
  | .inside names =>
    match d.file? names with
    | some content => .ok content
    | none => .error .isDirectory

def place (d : Directory) (folder : Spot) (name : List Char) : Except FileFailure Names :=
  if isTooLong name then .error .nameTooLong
  else
    match folder with
    | .outside => .error .notFound
    | .inside names =>
      if d.isFolder (names ++ [name]) then .error .isDirectory
      else .ok (names ++ [name])

/-- The place that a path gives to a file to be written. Everything before the
last component must lead to a folder. A path that ends in a slash, a dot or a
double dot can only be a folder itself, whether there is one or not. -/
def target (d : Directory) (path : String) : Except FileFailure Names := do
  checkPath path
  let reversed := (Path.splitAt '/' path.toList).reverse
  match reversed.dropWhile List.isEmpty with
  | [] => .error .isDirectory
  | last :: parents =>
    let spot ← d.folder (origin path.toList) parents.reverse
    if reversed.head? = some [] ∨ last = ['.'] ∨ last = Path.parent then .error .isDirectory
    else d.place spot last

def put (d : Directory) (names : Names) (content : Array UInt8) : Directory :=
  ⟨(names, content) :: d.files.filter (·.1 ≠ names)⟩

def create (d : Directory) (path : String) : Except FileFailure Spot × Directory :=
  match d.target path with
  | .error cause => (.error cause, d)
  | .ok names => (.ok (.inside names), d.put names #[])

def append (d : Directory) (spot : Spot) (bytes : Array UInt8) :
    Except FileFailure Unit × Directory :=
  match spot with
  | .outside => (.error .isDirectory, d)
  | .inside names =>
    match d.file? names with
    | none => (.error .isDirectory, d)
    | some held => (.ok (), d.put names (held ++ bytes))

def fileSystem : FileSystem Directory Spot := ⟨openFile, content, create, append⟩

def readModule (d : Directory) (path : String) : Journal Failure Image :=
  fileSystem.readModule Gzip.gunzip d path

def compileFile (d : Directory) (o : Options) (given : Option Format)
    (input output name : String) : Journal Failure Song × Directory :=
  fileSystem.compileFile Gzip.gunzip d o given input output name

theorem file?_put_self (d : Directory) (names : Names) (content : Array UInt8) :
    (d.put names content).file? names = some content := by
  simp [put, file?]

theorem file?_put_of_ne (d : Directory) {names other : Names} (content : Array UInt8)
    (h : other ≠ names) : (d.put names content).file? other = d.file? other := by
  have hne : (other == names) = false := by simpa using h
  simp only [put, file?, List.lookup_cons, hne, ne_eq, decide_not]
  induction d.files with
  | nil => rfl
  | cons f rest ih =>
    obtain ⟨key, held⟩ := f
    by_cases hk : key = names
    · subst hk
      simpa [List.lookup_cons, hne] using ih
    · simp [hk, List.lookup_cons, ih]

end Directory

end Chiptune

import Chiptune.Proofs.Detection
import Chiptune.Proofs.Path

/-!
# Compressed files

A compressed file is converted like the file that it was made from: its name has
the same format behind the ending, its content shows itself to be compressed,
and the image that it unpacks to goes the same way as one that is read plainly.
-/

namespace Chiptune

namespace Gzip

/-- What is documented of a decoder: it checks the file that it reads, and a file
that does not begin with the signature is refused. -/
structure Checked (gunzip : Decoder) : Prop where
  signed : ∀ {content image : Array UInt8}, gunzip content.toList = .ok image →
    isCompressed content = true

theorem gunzip_checked : Checked gunzip where
  signed := by
    intro content image unpacked
    obtain ⟨_, header, -⟩ := bind_eq_ok_iff.1 unpacked
    obtain ⟨_, -, header⟩ := bind_eq_ok_iff.1 header
    simp only at header
    split at header
    · cases header
    · rename_i valid
      simp only [not_or, Decidable.not_not] at valid
      simpa [isCompressed, List.extract_eq_take_drop] using valid.1

end Gzip

section

variable {State File : Type} {fs : FileSystem State File} {s s' : State}

/-- Two conversions of files: they make the same song and write its text, or fail
alike, and all files are as they were. -/
inductive FilesConvertedAlike (fs : FileSystem State File) (s s' : State) (output : String)
    (file file' : File) (text text' : String) :
    Except Failure Song × State → Except Failure Song × State → Prop
  | done {song : Song} {after after' : State} :
      fs.Written s output file song.source.toUTF8.data after →
      fs.Written s' output file' song.source.toUTF8.data after' →
      FilesConvertedAlike fs s s' output file file' text text' (.ok song, after) (.ok song, after')
  | failed {cause cause' : Failure} : Failure.SameBut text text' cause cause' →
      FilesConvertedAlike fs s s' output file file' text text' (.error cause, s) (.error cause', s')

/-- Files that hold the same image, under names with the same format, are converted alike. -/
theorem FileSystem.compileFile_alike (lawful : fs.Lawful) {gunzip : Gzip.Decoder}
    {path path' output : String} {image : Image} {file file' : File}
    (holds : fs.Holds gunzip s path image) (holds' : fs.Holds gunzip s' path' image)
    (sameName : Format.ofPath? path.toList = Format.ofPath? path'.toList)
    (created : (fs.create s output).1 = .ok file) (created' : (fs.create s' output).1 = .ok file')
    (o : Options) (given : Option Format) (name : String) :
    FilesConvertedAlike fs s s' output file file' path path'
      (fs.converted gunzip s o given path output name)
      (fs.converted gunzip s' o given path' output name) := by
  have made : (fs.compileModule gunzip s o given path name).outcome =
      formatOf given path image >>= fun format => (compile o format image name).outcome :=
    compileModule_of_holds holds
  have made' : (fs.compileModule gunzip s' o given path' name).outcome =
      formatOf given path' image >>= fun format => (compile o format image name).outcome :=
    compileModule_of_holds holds'
  unfold formatOf Format.detect? at made made'
  rw [sameName] at made
  cases found : given.or ((Format.ofPath? path'.toList).or (Format.sniff? image)) with
  | none =>
      rw [found] at made made'
      rw [converted_of_error output made, converted_of_error output made']
      exact .failed .format
  | some format =>
      simp only [found, ok_bind] at made made'
      cases compiled : (compile o format image name).outcome with
      | error cause =>
          rw [compiled] at made made'
          rw [converted_of_error output made, converted_of_error output made']
          exact .failed (.same cause)
      | ok song =>
          rw [compiled] at made made'
          obtain ⟨after, ends, written⟩ := converted_of_ok lawful made created
          obtain ⟨after', ends', written'⟩ := converted_of_ok lawful made' created'
          rw [ends, ends']
          exact .done written written'

end

/-- A compressed file has the format that its name has without the ending, which is the
one that the extension before the ending spells, and it is converted like the file that
it unpacks to. -/
theorem compression_is_transparent :
    (∀ (path : List Char) (endings : List (List Char)),
      Path.lastPart path ≠ [] → Path.lastPart path ≠ ['.'] →
      (∀ ending ∈ endings, ending ∈ Format.compressedEndings) →
      Format.ofPath? (path ++ endings.flatten) = Format.ofPath? path) ∧
    (∀ (path extension : List Char) (format : Format) (endings : List (List Char)),
      Path.lastPart path ≠ [] → Format.lower extension = format.name.toList →
      (∀ ending ∈ endings, ending ∈ Format.compressedEndings) →
      Format.ofPath? (path ++ '.' :: extension ++ endings.flatten) = some format) ∧
    (∀ (path stem extension : List Char),
      (Path.fileName? path).bind Path.stemAndExtension? = some (stem, extension) →
      stem.length < path.length) ∧
    ∀ (State File : Type) (fs : FileSystem State File) (gunzip : Gzip.Decoder) (s s' : State)
      (path ending output name : String) (packed content : Array UInt8) (file file' : File)
      (o : Options) (given : Option Format), fs.Lawful → Gzip.Checked gunzip →
      Path.lastPart path.toList ≠ [] → Path.lastPart path.toList ≠ ['.'] →
      ending.toList ∈ Format.compressedEndings →
      fs.read s (path ++ ending) = .ok packed → fs.read s' path = .ok content →
      gunzip packed.toList = .ok content → Gzip.isCompressed content = false →
      (fs.create s output).1 = .ok file → (fs.create s' output).1 = .ok file' →
      FilesConvertedAlike fs s s' output file file' (path ++ ending) path
        (fs.converted gunzip s o given (path ++ ending) output name)
        (fs.converted gunzip s' o given path output name) := by
  have active : ∀ path : List Char, Path.lastPart path ≠ [] → Path.lastPart path ≠ ['.'] →
      Path.isIdle (Path.lastPart path) = false := by
    intro path named notDot
    simp [Path.isIdle, named, notDot]
  refine ⟨?endings, ?named, ?shorter, ?files⟩
  case endings =>
    intro path endings named notDot compressed
    exact Format.ofPath?_append_endings (active path named notDot) compressed
  case named =>
    intro path extension format endings named spelled compressed
    obtain ⟨found, active⟩ := Format.ofPath?_append_extension named spelled
    rw [Format.ofPath?_append_endings active compressed, found]
  case shorter =>
    intro path stem extension parts
    exact Path.length_lt_of_stem parts
  case files =>
    intro State File fs gunzip s s' path ending output name packed content file file' o given
      lawful checked named notDot compressed readPacked read unpacked plain created created'
    have sameName : Format.ofPath? (path ++ ending).toList = Format.ofPath? path.toList := by
      rw [String.toList_append]
      exact Format.ofPath?_append_ending (active _ named notDot) compressed
    exact FileSystem.compileFile_alike lawful
      (.packed readPacked (checked.signed unpacked) unpacked) (.plain read plain) sameName
      created created' o given name

/-- A text of three bytes in a compressed file that stores it as it is. -/
def packedNotes : Array UInt8 := #[0x1F, 0x8B, 8, 0, 0, 0, 0, 0, 0, 0xFF, 1, 3, 0, 0xFC, 0xFF,
  0x61, 0x62, 0x0A, 62, 152, 74, 1, 3, 0, 0, 0]

def packedShelf : Directory := ⟨[(["notes.Mod.Gz".toList], packedNotes)]⟩

def plainShelf : Directory := ⟨[(["notes.Mod".toList], #[0x61, 0x62, 0x0A])]⟩

theorem compression_of_notes_is_transparent :
    Format.ofPath? "a.b/.mod.gz.Gz".toList = Format.ofPath? "a.b/.mod".toList ∧
    Format.ofPath? "a.b/x.MoD.gZ".toList = some .protracker ∧
    Directory.fileSystem.Lawful ∧ Gzip.Checked Gzip.gunzip ∧
    FilesConvertedAlike Directory.fileSystem packedShelf plainShelf "tune.c"
      (.inside ["tune.c".toList]) (.inside ["tune.c".toList]) ("notes.Mod" ++ ".Gz") "notes.Mod"
      (Directory.fileSystem.converted Gzip.gunzip packedShelf {} none ("notes.Mod" ++ ".Gz")
        "tune.c" "tune")
      (Directory.fileSystem.converted Gzip.gunzip plainShelf {} none "notes.Mod" "tune.c"
        "tune") := by
  obtain ⟨endings, extensions, -, files⟩ := compression_is_transparent
  refine ⟨?unnamed, ?named, Directory.lawful, Gzip.gunzip_checked, ?converted⟩
  case unnamed =>
    exact endings "a.b/.mod".toList [".gz".toList, ".Gz".toList] (by decide +kernel)
      (by decide +kernel) (by decide +kernel)
  case named =>
    exact extensions "a.b/x".toList "MoD".toList .protracker [".gZ".toList] (by decide +kernel)
      (by decide +kernel) (by decide +kernel)
  case converted =>
    have readPacked : Directory.fileSystem.read packedShelf ("notes.Mod" ++ ".Gz") =
        .ok packedNotes := by decide +kernel
    have read : Directory.fileSystem.read plainShelf "notes.Mod" = .ok #[0x61, 0x62, 0x0A] := by
      decide +kernel
    have unpacked : Gzip.gunzip packedNotes.toList = .ok #[0x61, 0x62, 0x0A] := by decide +kernel
    have created : (Directory.fileSystem.create packedShelf "tune.c").1 =
        .ok (.inside ["tune.c".toList]) := by decide +kernel
    have created' : (Directory.fileSystem.create plainShelf "tune.c").1 =
        .ok (.inside ["tune.c".toList]) := by decide +kernel
    exact files _ _ _ _ packedShelf plainShelf "notes.Mod" ".Gz" "tune.c" "tune" _ _ _ _ {} none
      Directory.lawful Gzip.gunzip_checked (by decide +kernel) (by decide +kernel)
      (by decide +kernel) readPacked read unpacked (by decide +kernel) created created'

end Chiptune

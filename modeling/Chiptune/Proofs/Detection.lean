import Chiptune.Proofs.FileConversion
import Chiptune.Proofs.Machine.Containers

/-!
# Formats that are recognised

The signature that shows the format of an image is the one that the reader of
that format asks for, at the same place: an image that a reader accepts is
recognised, and one that is not recognised is accepted by neither. An image can
carry both signatures, and is then taken for a Scream Tracker song. Images in
memory and files without a telling name are converted alike.
-/

namespace Chiptune

namespace Format

theorem signatureAt_eq_some_iff {image : Image} {offset : Nat} {bytes : List UInt8} :
    signatureAt image offset = some bytes ↔ image.slice offset 4 = .ok bytes := by
  unfold signatureAt
  cases image.slice offset 4 <;> simp [Except.toOption]

theorem signatureAt_screamTracker_iff {image : Image} :
    signatureAt image ScreamTracker.signatureOffset = some ScreamTracker.songSignature ↔
      (image.extract 0x2C 0x30).toList = ScreamTracker.songSignature := by
  rw [signatureAt_eq_some_iff, Image.slice_eq_ok_extract_iff]
  constructor
  · rintro ⟨-, signature⟩
    exact signature.symm
  · intro signature
    refine ⟨?_, signature.symm⟩
    have four := congrArg List.length signature
    simp only [Array.length_toList, Array.size_extract, ScreamTracker.songSignature,
      List.length_cons, List.length_nil] at four
    simp only [ScreamTracker.signatureOffset]
    omega

/-- What is recognised, by both signatures. -/
theorem sniff?_eq (image : Image) : sniff? image =
    if (image.extract 0x2C 0x30).toList = ScreamTracker.songSignature then some .screamTracker
    else if image.slice 0x438 4 = .ok Protracker.songSignature then some .protracker
    else none := by
  unfold sniff?
  simp only [signatureAt_screamTracker_iff]
  simp only [signatureAt_eq_some_iff, Protracker.signatureOffset]

end Format

theorem ScreamTracker.Tune.signature_of_parse {image : Image} {tune : ScreamTracker.Tune}
    (h : parse image = .ok tune) : (image.extract 0x2C 0x30).toList = songSignature := by
  obtain ⟨valid, -⟩ := parse_eq_ok_iff.1 h
  have complete := valid.complete
  have inside : 0x2C + 4 ≤ image.size := by
    unfold panTable patternTable instrumentTable at complete
    omega
  rw [← valid.signature]
  exact Image.extract_eq_map_byteAt inside

theorem Protracker.Tune.signature_of_parse {image : Image} {tune : Protracker.Tune}
    (h : parse image = .ok tune) : image.slice 0x438 4 = .ok songSignature := by
  obtain ⟨valid, -⟩ := parse_eq_ok_iff.1 h
  refine Image.slice_eq_ok_byteAt_iff.2 ⟨valid.complete, ?_⟩
  rw [← valid.signature]
  rfl

/-- Two failures that are the same, or that both find no format, with these texts. -/
inductive Failure.SameBut (text text' : String) : Failure → Failure → Prop
  | same (cause : Failure) : SameBut text text' cause cause
  | format : SameBut text text' (.unknownFormat text) (.unknownFormat text')

theorem convert_outcome (name : String) (image : Image) (o : Options) :
    (convert name image o).outcome =
      match Format.sniff? image with
      | none => .error (.unknownFormat "unrecognized module signature")
      | some format => (compile o format image name).outcome.map Song.source := by
  unfold convert
  cases Format.sniff? image with
  | none => rfl
  | some format =>
      simp only [Journal.bind_outcome]
      cases (compile o format image name).outcome <;> rfl

theorem convert_outcome_eq_ok_iff {name : String} {image : Image} {o : Options} {text : String} :
    (convert name image o).outcome = .ok text ↔ ∃ format song,
      Format.sniff? image = some format ∧ (compile o format image name).outcome = .ok song ∧
        text = song.source := by
  rw [convert_outcome]
  cases Format.sniff? image with
  | none => simp
  | some format => simp [map_eq_ok_iff, eq_comm]

section

variable {State File : Type} {fs : FileSystem State File} {s : State}

/-- A conversion in memory and one of a file: they make the same text, and the file
is written, or fail alike, and all files are as they were. -/
inductive ConvertedAlike (fs : FileSystem State File) (s : State) (input output : String)
    (file : File) : Except Failure String → Except Failure Song × State → Prop
  | done {song : Song} {after : State} :
      fs.Written s output file song.source.toUTF8.data after →
      ConvertedAlike fs s input output file (.ok song.source) (.ok song, after)
  | failed {cause cause' : Failure} :
      Failure.SameBut "unrecognized module signature" input cause cause' →
      ConvertedAlike fs s input output file (.error cause) (.error cause', s)

theorem convertedAlike (lawful : fs.Lawful) {input output : String} {content : Array UInt8}
    {file : File} (read : fs.read s input = .ok content)
    (plain : Gzip.isCompressed content = false) (unnamed : Format.ofPath? input.toList = none)
    (created : (fs.create s output).1 = .ok file) (gunzip : Gzip.Decoder) (o : Options)
    (name : String) :
    ConvertedAlike fs s input output file (convert name content o).outcome
      (fs.converted gunzip s o none input output name) := by
  have made : (fs.compileModule gunzip s o none input name).outcome =
      formatOf none input content >>= fun format => (compile o format content name).outcome :=
    FileSystem.compileModule_of_holds (.plain read plain)
  rw [convert_outcome]
  cases signed : Format.sniff? content with
  | none =>
      have unknown : formatOf none input content = .error (.unknownFormat input) := by
        simp [formatOf, Format.detect?, unnamed, signed]
      rw [unknown, error_bind] at made
      rw [FileSystem.converted_of_error output made]
      exact .failed .format
  | some format =>
      rw [formatOf_eq_ok_iff.2 (.signed rfl unnamed signed), ok_bind] at made
      simp only
      cases compiled : (compile o format content name).outcome with
      | error cause =>
          rw [compiled] at made
          rw [FileSystem.converted_of_error output made]
          exact .failed (.same cause)
      | ok song =>
          rw [compiled] at made
          obtain ⟨after, ends, written⟩ := FileSystem.converted_of_ok lawful made created
          rw [ends]
          exact .done written

end

/-- An image is recognised as what a parser accepts, whether the parser goes to the
signature or walks there field by field; and an image that is recognised by its
signature is converted in memory as it is in a file. -/
theorem sniff_agrees_with_parsers_and_files :
    (∀ (image : Image) (tune : ScreamTracker.Tune), ScreamTracker.Tune.parse image = .ok tune →
      Format.sniff? image = some .screamTracker) ∧
    (∀ (image : Image) (tune : Protracker.Tune), Protracker.Tune.parse image = .ok tune →
      Format.sniff? image =
        if image.extract 0x2C 0x30 = "SCRM".toUTF8.data then some .screamTracker
        else some .protracker) ∧
    (∀ image : Image, Format.sniff? image = none →
      (∃ cause, ScreamTracker.Tune.parse image = .error cause) ∧
        ∃ cause, Protracker.Tune.parse image = .error cause) ∧
    (∀ image : Image, image.size < 2 ^ 63 →
      Machine.ScreamTracker.parse image = .of (ScreamTracker.Tune.parse image) ∧
        Machine.Protracker.parse image = .of (Protracker.Tune.parse image)) ∧
    (∀ (name : String) (image : Image) (o : Options) (text : String),
      (convert name image o).outcome = .ok text ↔ ∃ format song,
        Format.sniff? image = some format ∧ (compile o format image name).outcome = .ok song ∧
          text = song.source) ∧
    (∀ (State File : Type) (fs : FileSystem State File) (gunzip : Gzip.Decoder) (s : State)
      (input output name : String) (content : Array UInt8) (file : File) (o : Options),
      fs.Lawful → fs.read s input = .ok content → Gzip.isCompressed content = false →
      Format.ofPath? input.toList = none → (fs.create s output).1 = .ok file →
      ConvertedAlike fs s input output file (convert name content o).outcome
        (fs.converted gunzip s o none input output name)) := by
  have scrm : "SCRM".toUTF8.data.toList = ScreamTracker.songSignature := by decide
  have recognised : ∀ (image : Image) (tune : ScreamTracker.Tune),
      ScreamTracker.Tune.parse image = .ok tune → Format.sniff? image = some .screamTracker := by
    intro image tune read
    rw [Format.sniff?_eq, if_pos (ScreamTracker.Tune.signature_of_parse read)]
  have either : ∀ (image : Image) (tune : Protracker.Tune),
      Protracker.Tune.parse image = .ok tune → Format.sniff? image =
        if image.extract 0x2C 0x30 = "SCRM".toUTF8.data then some .screamTracker
        else some .protracker := by
    intro image tune read
    simp only [Format.sniff?_eq, if_pos (Protracker.Tune.signature_of_parse read),
      ← Array.toList_inj, scrm]
  refine ⟨recognised, either, ?unrecognised, ?walked, ?convert, ?files⟩
  case unrecognised =>
    intro image unknown
    simp only [exists_error_iff]
    constructor
    · rintro ⟨tune, read⟩
      cases unknown.symm.trans (recognised image tune read)
    · rintro ⟨tune, read⟩
      have known := unknown.symm.trans (either image tune read)
      split at known <;> cases known
  case walked =>
    intro image small
    exact ⟨Machine.ScreamTracker.parse_eq small, Machine.Protracker.parse_eq small⟩
  case convert =>
    intro name image o text
    exact convert_outcome_eq_ok_iff
  case files =>
    intro State File fs gunzip s input output name content file o lawful read plain unnamed created
    exact convertedAlike lawful read plain unnamed created gunzip o name

/-- The header of a Protracker song with the other signature among its samples. -/
def twoSignatures : Image := Array.mk <|
  List.replicate 44 0 ++ ScreamTracker.songSignature ++ List.replicate 1032 0 ++
    Protracker.songSignature

/-- Files without a telling name: a module of one silent row, and a text. -/
def shelf : Directory := ⟨[
  (["tune".toList], ScreamTracker.onePatternImage [0]),
  (["notes.txt".toList], #[0x61, 0x62, 0x0A])]⟩

theorem sniff_agrees_on_shelf :
    (∃ tune, Protracker.Tune.parse twoSignatures = .ok tune ∧
      Format.sniff? twoSignatures = some .screamTracker) ∧
    (∃ cause, ScreamTracker.Tune.parse #[0x61, 0x62, 0x0A] = .error cause) ∧
    Directory.fileSystem.Lawful ∧
    ConvertedAlike Directory.fileSystem shelf "tune" "tune.c" (.inside ["tune.c".toList])
      (convert "tune" (ScreamTracker.onePatternImage [0]) {}).outcome
      (Directory.fileSystem.converted Gzip.gunzip shelf {} none "tune" "tune.c" "tune") ∧
    ConvertedAlike Directory.fileSystem shelf "notes.txt" "tune.c" (.inside ["tune.c".toList])
      (convert "notes" #[0x61, 0x62, 0x0A] {}).outcome
      (Directory.fileSystem.converted Gzip.gunzip shelf {} none "notes.txt" "tune.c" "notes") := by
  obtain ⟨-, either, unrecognised, -, -, files⟩ := sniff_agrees_with_parsers_and_files
  have read : Protracker.Tune.parse twoSignatures = .ok (Protracker.headerOf twoSignatures) :=
    Protracker.Tune.parse_eq_ok_iff.2
      ⟨⟨by decide +kernel, by decide +kernel, by decide +kernel⟩, rfl⟩
  have both : twoSignatures.extract 0x2C 0x30 = "SCRM".toUTF8.data := by decide +kernel
  have created : (Directory.fileSystem.create shelf "tune.c").1 =
      .ok (.inside ["tune.c".toList]) := by decide +kernel
  refine ⟨⟨_, read, ?_⟩, (unrecognised #[0x61, 0x62, 0x0A] (by decide +kernel)).1,
    Directory.lawful, ?_, ?_⟩
  · rw [either _ _ read, if_pos both]
  · exact files _ _ _ _ shelf "tune" "tune.c" "tune" (ScreamTracker.onePatternImage [0]) _ {}
      Directory.lawful (by decide +kernel) (by decide +kernel) (by decide +kernel) created
  · exact files _ _ _ _ shelf "notes.txt" "tune.c" "notes" #[0x61, 0x62, 0x0A] _ {}
      Directory.lawful (by decide +kernel) (by decide +kernel) (by decide +kernel) created

end Chiptune

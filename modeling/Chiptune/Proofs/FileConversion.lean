import Chiptune.CommandLine.Dumper
import Chiptune.Proofs.Compilation
import Chiptune.Proofs.Directory
import Chiptune.Proofs.Song.Sink

/-!
# Converting files

Before a conversion touches its output it has read the input, unpacked it if it
is compressed, found its format and compiled it. If any of this fails, or if the
output cannot be created, all files are as they were; otherwise the output holds
the text of what was made, all of it, and the other files are as they were. The
library and the two commands go this way with their own texts and endings. The
files, the decoder of compressed files, the reader of the arguments and the printers
of JSON are arbitrary; of the files no more is asked than what systems document.
-/

namespace Chiptune

/-- The format of an image: the one given, else the one that its path names, else
the one that its signature shows. -/
inductive HasFormat (given : Option Format) (path : String) (image : Image) : Format → Prop
  | given {format : Format} : given = some format → HasFormat given path image format
  | named {format : Format} : given = none → Format.ofPath? path.toList = some format →
      HasFormat given path image format
  | signed {format : Format} : given = none → Format.ofPath? path.toList = none →
      Format.sniff? image = some format → HasFormat given path image format

theorem formatOf_eq_ok_iff {given : Option Format} {path : String} {image : Image}
    {format : Format} :
    formatOf given path image = .ok format ↔ HasFormat given path image format := by
  have iff_signed : formatOf given path image = .ok format ↔
      given = some format ∨ given = none ∧ (Format.ofPath? path.toList = some format ∨
        Format.ofPath? path.toList = none ∧ Format.sniff? image = some format) := by
    simp only [← Option.or_eq_some_iff]
    unfold formatOf Format.detect?
    split <;> simp [*]
  rw [iff_signed]
  constructor
  · rintro (h | ⟨none, h | ⟨unnamed, h⟩⟩)
    exacts [.given h, .named none h, .signed none unnamed h]
  · rintro (h | ⟨none, h⟩ | ⟨none, unnamed, h⟩)
    exacts [.inl h, .inr ⟨none, .inl h⟩, .inr ⟨none, .inr ⟨unnamed, h⟩⟩]

theorem unpackFile_outcome (gunzip : Gzip.Decoder) (path : String) (content : Array UInt8) :
    (unpackFile gunzip path content).outcome =
      if Gzip.isCompressed content then (gunzip content.toList).mapError .compressed
      else .ok content := by
  unfold unpackFile
  split
  · rw [Journal.bind_outcome, Journal.ofExcept_outcome]
    cases gunzip content.toList <;> rfl
  · rfl

section

variable {State File : Type} (fs : FileSystem State File) (gunzip : Gzip.Decoder) (s : State)

namespace FileSystem

/-- The image in a file: its content, or what its content unpacks to. -/
inductive Holds (path : String) : Image → Prop
  | plain {content : Array UInt8} : fs.read s path = .ok content →
      Gzip.isCompressed content = false → Holds path content
  | packed {content : Array UInt8} {image : Image} : fs.read s path = .ok content →
      Gzip.isCompressed content = true → gunzip content.toList = .ok image →
      Holds path image

variable {fs gunzip s} {o : Options} {given : Option Format} {path name : String}

theorem readModule_outcome : (fs.readModule gunzip s path).outcome =
    (fs.read s path).mapError .file >>= fun content =>
      (unpackFile gunzip path content).outcome := by
  rw [readModule, Journal.bind_outcome, Journal.ofExcept_outcome]

theorem holds_iff {image : Image} :
    fs.Holds gunzip s path image ↔ (fs.readModule gunzip s path).outcome = .ok image := by
  simp only [readModule_outcome, bind_eq_ok_iff, mapError_eq_ok_iff, unpackFile_outcome]
  constructor
  · rintro (⟨read, plain⟩ | ⟨read, packed, unpacked⟩)
    · exact ⟨_, read, by rw [if_neg (by simp [plain])]⟩
    · exact ⟨_, read, by rw [if_pos packed, unpacked]; rfl⟩
  · rintro ⟨content, read, h⟩
    split at h
    · exact .packed read ‹_› (mapError_eq_ok_iff.1 h)
    · cases h
      exact .plain read (Bool.eq_false_iff.2 ‹_›)

theorem compileModule_outcome : (fs.compileModule gunzip s o given path name).outcome =
    (fs.readModule gunzip s path).outcome >>= fun image =>
      formatOf given path image >>= fun format => (compile o format image name).outcome := by
  rw [readModule_outcome, compileModule, Journal.bind_outcome, Journal.ofExcept_outcome]
  cases (fs.read s path).mapError Failure.file with
  | error cause => rfl
  | ok content =>
      simp only [ok_bind, compileContent, Journal.bind_outcome, Journal.ofExcept_outcome]

theorem compileModule_of_holds {image : Image} (holds : fs.Holds gunzip s path image) :
    (fs.compileModule gunzip s o given path name).outcome =
      formatOf given path image >>= fun format => (compile o format image name).outcome := by
  rw [compileModule_outcome, holds_iff.1 holds, ok_bind]

end FileSystem

/-- What a conversion does with what was made: the texts that it writes, and how it ends
if nothing was made, if its output cannot be written, and if it has been written. -/
structure Delivery (ε α β : Type) where
  texts : α → List String
  failed : ε → β
  unwritten : FileFailure → β
  done : α → β

namespace Delivery

variable {ε α β : Type}

def text (v : Delivery ε α β) (a : α) : String := String.join (v.texts a)

def run (v : Delivery ε α β) (path : String) : Except ε α → β × State
  | .error cause => (v.failed cause, s)
  | .ok a =>
    match fs.writeTexts s path (v.texts a) with
    | (.error cause, after) => (v.unwritten cause, after)
    | (.ok _, after) => (v.done a, after)

variable {fs}

end Delivery

/-- The library gives the song back, and its source goes to the file. -/
def songDelivery : Delivery Failure Song (Except Failure Song) where
  texts := Song.sourceLines
  failed := .error
  unwritten cause := .error (.file cause)
  done := .ok

namespace FileSystem

/-- What is left of a conversion of a file: its outcome and the state of the files. -/
def converted (o : Options) (given : Option Format) (input output name : String) :
    Except Failure Song × State :=
  ((fs.compileFile gunzip s o given input output name).1.outcome,
    (fs.compileFile gunzip s o given input output name).2)

variable {o : Options} {given : Option Format} {path name : String}

theorem converted_eq_run (o : Options) (given : Option Format) (input output name : String) :
    fs.converted gunzip s o given input output name =
      songDelivery.run fs s output (fs.compileModule gunzip s o given input name).outcome := by
  unfold converted compileFile
  simp only
  cases made : (fs.compileModule gunzip s o given input name).outcome with
  | error cause => simp only [made, Delivery.run, songDelivery]
  | ok song =>
      simp only [Delivery.run, songDelivery]
      rw [Journal.bind_outcome, made, ok_bind, Journal.bind_outcome, Journal.ofExcept_outcome]
      generalize fs.writeTexts s output song.sourceLines = writing
      obtain ⟨written, after⟩ := writing
      cases written <;> rfl

variable {fs gunzip s}

theorem converted_of_error {cause : Failure} (output : String)
    (h : (fs.compileModule gunzip s o given path name).outcome = .error cause) :
    fs.converted gunzip s o given path output name = (.error cause, s) := by
  rw [converted_eq_run, h]
  rfl

theorem converted_of_ok (lawful : fs.Lawful) {song : Song} {output : String} {file : File}
    (h : (fs.compileModule gunzip s o given path name).outcome = .ok song)
    (created : (fs.create s output).1 = .ok file) :
    ∃ after, fs.converted gunzip s o given path output name = (.ok song, after) ∧
      fs.Written s output file song.source.toUTF8.data after := by
  obtain ⟨after, writes, written⟩ := lawful.writeTexts_of_ok created song.sourceLines
  refine ⟨after, ?_, written⟩
  rw [converted_eq_run, h, Delivery.run, songDelivery, writes]

end FileSystem

namespace CommandLine

end CommandLine

end

end Chiptune

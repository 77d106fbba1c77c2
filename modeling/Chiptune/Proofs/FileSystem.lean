import Chiptune.FileSystem
import Chiptune.Proofs.Text.Utf8

/-!
# What is known of files

Of the system that a program runs on this much is taken for granted: a file that
cannot be created leaves everything as it was; one that is created is empty, and
what is appended to it is taken and stays behind what was there; and nothing is done
to any other file, nor to the way from a path to its file. Then texts written to a
path end up in the file of that path, one behind the other, and nowhere else.
-/

namespace Chiptune.FileSystem

variable {State File : Type}

/-- A file has been given a content. The other files hold what they held, and a path
that led to a file leads to it still. -/
structure Rewritten (fs : FileSystem State File) (s : State) (file : File)
    (content : Array UInt8) (after : State) : Prop where
  held : fs.content after file = .ok content
  others : ∀ other, other ≠ file → fs.content after other = fs.content s other
  paths : ∀ path found, fs.openFile s path = .ok found → fs.openFile after path = .ok found

/-- What systems document of the calls that change files. -/
structure Lawful (fs : FileSystem State File) : Prop where
  /-- Creating a file fails without effect. -/
  create_error : ∀ {s after : State} {path : String} {cause : FileFailure},
    fs.create s path = (.error cause, after) → after = s
  /-- A file that is created is empty, also if it held something before. -/
  create_ok : ∀ {s after : State} {path : String} {file : File},
    fs.create s path = (.ok file, after) → fs.Rewritten s file #[] after
  /-- If the path of a created file can be opened, it leads to that file. -/
  create_opens : ∀ {s after : State} {path : String} {file found : File},
    fs.create s path = (.ok file, after) → fs.openFile after path = .ok found → found = file
  /-- What is appended to a file stands behind what it held. -/
  append_ok : ∀ {s after : State} {file : File} {held bytes : Array UInt8},
    fs.content s file = .ok held → fs.append s file bytes = (.ok (), after) →
      fs.Rewritten s file (held ++ bytes) after
  /-- Appending changes the way to no file. -/
  append_opens : ∀ {s after : State} {file : File} {bytes : Array UInt8},
    fs.append s file bytes = (.ok (), after) →
      ∀ path, fs.openFile after path = fs.openFile s path
  /-- Writes to a created file succeed. -/
  create_accepts : ∀ {s after : State} {path : String} {file : File},
    fs.create s path = (.ok file, after) →
      ∀ texts, (fs.appendAll after file texts).1 = .ok ()

/-- A file has been written at a path: the file that is created there has been given
the content, and it is what the path leads to. -/
structure Written (fs : FileSystem State File) (s : State) (path : String) (file : File)
    (content : Array UInt8) (after : State) : Prop
    extends fs.Rewritten s file content after where
  created : (fs.create s path).1 = .ok file
  leads : ∀ found, fs.openFile after path = .ok found → found = file

variable {fs : FileSystem State File} {s s' after : State} {file : File} {path : String}
  {content content' : Array UInt8}

theorem Rewritten.of_content (held : fs.content s file = .ok content) :
    fs.Rewritten s file content s :=
  ⟨held, fun _ _ => rfl, fun _ _ opened => opened⟩

theorem Rewritten.trans (first : fs.Rewritten s file content s')
    (second : fs.Rewritten s' file content' after) : fs.Rewritten s file content' after where
  held := second.held
  others other different := (second.others other different).trans (first.others other different)
  paths path found opened := second.paths path found (first.paths path found opened)

/-- Texts that are all taken stand behind what was there. -/
theorem Lawful.appendAll_ok (lawful : fs.Lawful) {texts : List String}
    (held : fs.content s file = .ok content)
    (taken : fs.appendAll s file texts = (.ok (), after)) :
    fs.Rewritten s file (content ++ (String.join texts).toUTF8.data) after ∧
      ∀ path, fs.openFile after path = fs.openFile s path := by
  induction texts generalizing s content with
  | nil =>
      cases taken
      refine ⟨.of_content ?_, fun _ => rfl⟩
      simpa using held
  | cons text texts ih =>
      rw [appendAll] at taken
      cases appended : fs.append s file text.toUTF8.data with
      | mk result next =>
          rw [appended] at taken
          cases result with
          | error cause => cases taken
          | ok =>
              have first := lawful.append_ok held appended
              obtain ⟨rest, opens⟩ := ih first.held taken
              rw [Text.Utf8.toUTF8_join_cons, ← Array.append_assoc]
              refine ⟨first.trans rest, fun path => ?_⟩
              rw [opens path, lawful.append_opens appended path]

/-- Texts are written to a file as long as it can be created. -/
theorem Lawful.writeTexts_of_ok (lawful : fs.Lawful) (created : (fs.create s path).1 = .ok file)
    (texts : List String) : ∃ after, fs.writeTexts s path texts = (.ok (), after) ∧
      fs.Written s path file (String.join texts).toUTF8.data after := by
  obtain ⟨next, creates⟩ : ∃ next, fs.create s path = (.ok file, next) :=
    ⟨_, Prod.ext created rfl⟩
  obtain ⟨after, taken⟩ : ∃ after, fs.appendAll next file texts = (.ok (), after) :=
    ⟨_, Prod.ext (lawful.create_accepts creates texts) rfl⟩
  have emptied := lawful.create_ok creates
  obtain ⟨filled, opens⟩ := lawful.appendAll_ok emptied.held taken
  rw [Array.empty_append] at filled
  refine ⟨after, ?_, emptied.trans filled, created, ?_⟩
  · rw [writeTexts, creates]
    exact taken
  · intro found opened
    rw [opens path] at opened
    exact lawful.create_opens creates opened

end Chiptune.FileSystem

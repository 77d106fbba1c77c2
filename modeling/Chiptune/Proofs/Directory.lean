import Chiptune.Directory
import Chiptune.Proofs.FileSystem
import Chiptune.Proofs.Outcome

/-!
# The directory in memory as a file system

The directory in memory keeps what is documented of file systems. A path that leads
somewhere before a file is written leads there afterwards, and the path at which the
file was written leads to it.
-/

namespace Chiptune.Directory

variable {d : Directory} {names : Names} {content : Array UInt8}

theorem isSome_file?_put {other : Names} (h : (d.file? other).isSome) :
    ((d.put names content).file? other).isSome := by
  by_cases same : other = names
  · rw [same, file?_put_self]
    rfl
  · rw [file?_put_of_ne d content same]
    exact h

theorem isFolder_put {folder : Names} (h : d.isFolder folder = true) :
    (d.put names content).isFolder folder = true := by
  simp only [isFolder, Bool.or_eq_true, List.any_eq_true] at h ⊢
  refine h.imp_right fun ⟨file, held, inside⟩ => ?_
  by_cases same : file.1 = names
  · exact ⟨(names, content), List.mem_cons_self, same ▸ inside⟩
  · refine ⟨file, List.mem_cons_of_mem _ (List.mem_filter.2 ⟨held, ?_⟩), inside⟩
    simpa using same

theorem enter_put {spot spot' : Spot} {component : List Char}
    (h : d.enter spot component = .ok spot') :
    (d.put names content).enter spot component = .ok spot' := by
  cases spot with
  | outside => exact h
  | inside folder =>
      have entered : d.isFolder folder = true → (d.put names content).isFolder folder = true :=
        isFolder_put
      have asFolder : d.isFolder (folder ++ [component]) = true →
          (d.put names content).isFolder (folder ++ [component]) = true := isFolder_put
      have asFile : (d.file? (folder ++ [component])).isSome →
          ((d.put names content).file? (folder ++ [component])).isSome := isSome_file?_put
      unfold enter at h ⊢
      grind

theorem follow_put {components : List (List Char)} {spot spot' : Spot}
    (h : d.follow spot components = .ok spot') :
    (d.put names content).follow spot components = .ok spot' := by
  unfold follow at h ⊢
  induction components generalizing spot with
  | nil => exact h
  | cons component components ih =>
      rw [List.foldlM_cons, bind_eq_ok_iff] at h ⊢
      obtain ⟨next, entered, followed⟩ := h
      exact ⟨next, enter_put entered, ih followed⟩

/-- The parts of a path that a file can be written to: a folder, and a name in it. -/
structure Target (d : Directory) (path : String) (names : Names) : Prop where
  checked : checkPath path = .ok ()
  split : ∃ parents last folder, Path.splitAt '/' path.toList = parents ++ [last] ∧
    d.follow (origin path.toList) parents = .ok (.inside folder) ∧ d.isFolder folder = true ∧
    Path.isIdle last = false ∧ last ≠ Path.parent ∧ isTooLong last = false ∧
    names = folder ++ [last]

theorem folder_eq_ok {spot : Spot} {components : List (List Char)} {folder : Names}
    (h : d.folder spot components = .ok (.inside folder)) :
    d.follow spot components = .ok (.inside folder) ∧ d.isFolder folder = true := by
  unfold Directory.folder at h
  obtain ⟨reached, followed, h⟩ := bind_eq_ok_iff.1 h
  cases reached with
  | outside => cases h
  | inside _ =>
      simp only at h
      split at h
      · cases h
        exact ⟨followed, ‹_›⟩
      · cases h

theorem place_eq_ok {spot : Spot} {name : List Char} (h : d.place spot name = .ok names) :
    isTooLong name = false ∧ ∃ folder, spot = .inside folder ∧ names = folder ++ [name] := by
  unfold place at h
  split at h
  · cases h
  · refine ⟨Bool.eq_false_iff.2 ‹_›, ?_⟩
    cases spot with
    | outside => cases h
    | inside folder =>
        simp only at h
        split at h
        · cases h
        · cases h
          exact ⟨folder, rfl, rfl⟩

theorem target_of_eq_ok {path : String} (h : d.target path = .ok names) :
    Target d path names := by
  unfold target at h
  obtain ⟨_, checked, h⟩ := bind_eq_ok_iff.1 h
  refine ⟨checked, ?_⟩
  simp only at h
  generalize parts : (Path.splitAt '/' path.toList).reverse = reversed at h
  cases rest : reversed.dropWhile List.isEmpty with
  | nil =>
      rw [rest] at h
      cases h
  | cons last parents =>
      rw [rest] at h
      obtain ⟨spot, entered, h⟩ := bind_eq_ok_iff.1 h
      split at h
      · cases h
      rename_i named
      simp only [not_or] at named
      obtain ⟨short, folder, rfl, rfl⟩ := place_eq_ok h
      obtain ⟨followed, entered⟩ := folder_eq_ok entered
      have whole : reversed = last :: parents := by
        cases reversed with
        | nil => cases rest
        | cons first _ =>
            rwa [List.dropWhile_cons_of_neg] at rest
            simpa using named.1
      refine ⟨parents.reverse, last, folder, ?_, followed, entered, ?_, named.2.2, short, rfl⟩
      · rw [← List.reverse_reverse (Path.splitAt _ _), parts, whole, List.reverse_cons]
      · rw [whole] at named
        simpa [Path.isIdle] using And.intro named.1 named.2.1

theorem openFile_put_target {path : String} (h : d.target path = .ok names) :
    (d.put names content).openFile path = .ok (.inside names) := by
  obtain ⟨checked, parents, last, folder, split, followed, entered, active, down, short, rfl⟩ :=
    target_of_eq_ok h
  have there : (d.put (folder ++ [last]) content).isFolder folder = true := isFolder_put entered
  have reached : (d.put (folder ++ [last]) content).enter (.inside folder) last =
      .ok (.inside (folder ++ [last])) := by
    unfold enter
    simp only
    rw [if_neg (by simpa using there), if_neg (by simpa using active), if_neg down,
      if_neg (by simpa using short), file?_put_self]
    simp
  unfold openFile
  rw [checked, ok_bind, split, follow, List.foldlM_append, bind_eq_ok_iff]
  refine ⟨_, follow_put followed, ?_⟩
  rw [List.foldlM_cons, reached]
  rfl

theorem openFile_put {path : String} {spot : Spot} (h : d.openFile path = .ok spot) :
    (d.put names content).openFile path = .ok spot := by
  unfold openFile at h ⊢
  obtain ⟨_, checked, followed⟩ := bind_eq_ok_iff.1 h
  exact bind_eq_ok_iff.2 ⟨_, checked, follow_put followed⟩

theorem file?_put_isSome_of_file (there : (d.file? names).isSome) (other : Names) :
    ((d.put names content).file? other).isSome = (d.file? other).isSome := by
  by_cases same : other = names
  · rw [same, file?_put_self, there]
    rfl
  · rw [file?_put_of_ne d content same]

theorem isFolder_put_of_file (there : (d.file? names).isSome) (folder : Names) :
    (d.put names content).isFolder folder = d.isFolder folder := by
  rw [Bool.eq_iff_iff]
  refine ⟨fun h => ?_, isFolder_put⟩
  simp only [isFolder, Bool.or_eq_true, List.any_eq_true] at h ⊢
  refine h.imp_right fun ⟨file, held, inside⟩ => ?_
  rcases List.mem_cons.1 held with rfl | held
  · obtain ⟨held, member, key⟩ := List.lookup_isSome_iff.1 there
    exact ⟨held, member, eq_of_beq key ▸ inside⟩
  · exact ⟨file, (List.mem_filter.1 held).1, inside⟩

/-- Where there is a file already, writing it changes the way to no file. -/
theorem openFile_put_of_file (there : (d.file? names).isSome) (path : String) :
    (d.put names content).openFile path = d.openFile path := by
  have enters : (d.put names content).enter = d.enter := by
    funext spot component
    cases spot with
    | outside => rfl
    | inside folder =>
        simp only [enter, isFolder_put_of_file there, file?_put_isSome_of_file there]
  simp only [openFile, follow, enters]

theorem content_put_of_ne {spot : Spot} (different : spot ≠ .inside names) :
    (d.put names content).content spot = d.content spot := by
  cases spot with
  | outside => rfl
  | inside other =>
      have apart : other ≠ names := fun same => different (same ▸ rfl)
      simp only [Directory.content, file?_put_of_ne d content apart]

theorem rewritten_put : fileSystem.Rewritten d (.inside names) content (d.put names content) where
  held := by simp only [fileSystem, Directory.content, file?_put_self]
  others _ different := content_put_of_ne different
  paths _ _ opened := openFile_put opened

theorem create_eq_ok {after : Directory} {path : String} {spot : Spot}
    (h : d.create path = (.ok spot, after)) :
    ∃ names, d.target path = .ok names ∧ spot = .inside names ∧ after = d.put names #[] := by
  unfold create at h
  cases there : d.target path with
  | error cause =>
      rw [there] at h
      cases h
  | ok names =>
      rw [there] at h
      cases h
      exact ⟨names, rfl, rfl, rfl⟩

theorem append_eq_ok {after : Directory} {spot : Spot} {bytes : Array UInt8}
    (h : d.append spot bytes = (.ok (), after)) :
    ∃ names held, spot = .inside names ∧ d.file? names = some held ∧
      after = d.put names (held ++ bytes) := by
  unfold append at h
  cases spot with
  | outside => cases h
  | inside names =>
      simp only at h
      cases there : d.file? names with
      | none =>
          rw [there] at h
          cases h
      | some held =>
          rw [there] at h
          cases h
          exact ⟨names, held, rfl, there, rfl⟩

/-- A file that is there takes everything. -/
theorem appendAll_of_file (there : (d.file? names).isSome) (texts : List String) :
    (fileSystem.appendAll d (.inside names) texts).1 = .ok () := by
  induction texts generalizing d with
  | nil => rfl
  | cons text texts ih =>
      obtain ⟨held, there⟩ := Option.isSome_iff_exists.1 there
      have appended : d.append (.inside names) text.toUTF8.data =
          (.ok (), d.put names (held ++ text.toUTF8.data)) := by
        simp only [append, there]
      rw [FileSystem.appendAll]
      simp only [fileSystem, appended]
      refine ih ?_
      rw [file?_put_self]
      rfl

theorem lawful : fileSystem.Lawful where
  create_error := by
    intro d after path cause h
    simp only [fileSystem, create] at h
    split at h <;> cases h
    rfl
  create_ok := by
    intro d after path spot h
    obtain ⟨names, -, rfl, rfl⟩ := create_eq_ok h
    exact rewritten_put
  create_opens := by
    intro d after path spot found h opened
    obtain ⟨names, there, rfl, rfl⟩ := create_eq_ok h
    exact Except.ok.inj (opened.symm.trans (openFile_put_target there))
  append_ok := by
    intro d after spot held bytes holds h
    obtain ⟨names, held', rfl, there, rfl⟩ := append_eq_ok h
    obtain rfl : held' = held := by
      simpa only [fileSystem, Directory.content, there, Except.ok.injEq] using holds
    exact rewritten_put
  append_opens := by
    intro d after spot bytes h path
    obtain ⟨names, held, rfl, there, rfl⟩ := append_eq_ok h
    exact openFile_put_of_file (by rw [there]; rfl) path
  create_accepts := by
    intro d after path spot h texts
    obtain ⟨names, -, rfl, rfl⟩ := create_eq_ok h
    refine appendAll_of_file ?_ texts
    rw [file?_put_self]
    rfl

end Chiptune.Directory

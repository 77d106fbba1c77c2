/-!
# File paths

A path is a sequence of components between slashes. Empty components and single
dots say nothing. The file name of a path is its last component, unless that
component leads to a parent directory. The extension of a name is what follows
its last dot; a name with nothing before that dot has no extension.
-/

namespace Chiptune.Path

/-- The parts of a text between separators; there is always at least one. -/
def splitAt (separator : Char) : List Char → List (List Char)
  | [] => [[]]
  | c :: rest =>
    if c = separator then [] :: splitAt separator rest
    else
      match splitAt separator rest with
      | [] => [[c]]
      | part :: parts => (c :: part) :: parts

def isIdle (component : List Char) : Bool := component = [] || component = ['.']

def parent : List Char := ['.', '.']

def components (path : List Char) : List (List Char) :=
  (splitAt '/' path).filter fun component => !isIdle component

def fileName? (path : List Char) : Option (List Char) :=
  match (components path).getLast? with
  | none => none
  | some name => if name = parent then none else some name

def splitLastDot : List Char → Option (List Char × List Char)
  | [] => none
  | c :: rest =>
    match splitLastDot rest with
    | some (stem, extension) => some (c :: stem, extension)
    | none => if c = '.' then some ([], rest) else none

def stemAndExtension? (name : List Char) : Option (List Char × List Char) :=
  match splitLastDot name with
  | some ([], _) | none => none
  | some (stem, extension) => some (stem, extension)

theorem splitLastDot_eq_some {name stem extension : List Char}
    (h : splitLastDot name = some (stem, extension)) : name = stem ++ '.' :: extension := by
  induction name generalizing stem with
  | nil => simp [splitLastDot] at h
  | cons c rest ih =>
    unfold splitLastDot at h
    split at h
    · rename_i stem' extension' h'
      simp only [Option.some.injEq, Prod.mk.injEq] at h
      obtain ⟨rfl, rfl⟩ := h
      simp [ih h']
    · split at h
      · simp_all
      · simp at h

theorem stemAndExtension?_eq_some {name stem extension : List Char}
    (h : stemAndExtension? name = some (stem, extension)) :
    name = stem ++ '.' :: extension := by
  unfold stemAndExtension? at h
  split at h
  · simp at h
  · simp at h
  · rename_i hs
    simp only [Option.some.injEq, Prod.mk.injEq] at h
    obtain ⟨rfl, rfl⟩ := h
    exact splitLastDot_eq_some hs

theorem length_le_of_mem_splitAt {separator : Char} {path part : List Char}
    (h : part ∈ splitAt separator path) : part.length ≤ path.length := by
  induction path generalizing part with
  | nil => simp_all [splitAt]
  | cons c rest ih =>
    unfold splitAt at h
    split at h
    · rcases List.mem_cons.1 h with rfl | h
      · simp
      · exact Nat.le_succ_of_le (ih h)
    · cases hs : splitAt separator rest with
      | nil => simp_all
      | cons head parts =>
        rw [hs] at h ih
        rcases List.mem_cons.1 h with rfl | h
        · simpa using ih (List.mem_cons_self ..)
        · exact Nat.le_succ_of_le (ih (List.mem_cons_of_mem _ h))

theorem length_le_of_fileName? {path name : List Char} (h : fileName? path = some name) :
    name.length ≤ path.length := by
  unfold fileName? at h
  split at h
  · simp at h
  · rename_i last hl
    split at h
    · simp at h
    · simp only [Option.some.injEq] at h
      subst h
      exact length_le_of_mem_splitAt (List.mem_filter.1 (List.mem_of_getLast? hl)).1

/-- A stem is shorter than the path whose file name it starts. -/
theorem length_lt_of_stem {path stem extension : List Char}
    (h : (fileName? path).bind stemAndExtension? = some (stem, extension)) :
    stem.length < path.length := by
  obtain ⟨name, hn, hs⟩ := Option.bind_eq_some_iff.1 h
  have hname := length_le_of_fileName? hn
  rw [stemAndExtension?_eq_some hs] at hname
  simp at hname
  omega

end Chiptune.Path

import Chiptune.Detection
import Mathlib.Data.List.DropRight

/-!
# File names and their endings

The name of a file is what follows the last slash of its path, and the format
that a path names depends on nothing else. The ending of a compressed file says
nothing about the format, however often it is repeated.
-/

namespace Chiptune

namespace Path

/-- What follows the last slash, or the whole path if there is none. -/
def lastPart (path : List Char) : List Char := path.rtakeWhile (· ≠ '/')

theorem lastPart_append {path suffix : List Char} (h : '/' ∉ suffix) :
    lastPart (path ++ suffix) = lastPart path ++ suffix := by
  have all : ∀ c ∈ suffix.reverse, decide (c ≠ '/') = true := by
    intro c member
    simp only [decide_eq_true_eq]
    rintro rfl
    exact h (List.mem_reverse.1 member)
  unfold lastPart List.rtakeWhile
  rw [List.reverse_append, List.takeWhile_append_of_pos all, List.reverse_append,
    List.reverse_reverse]

theorem lastPart_lastPart (path : List Char) : lastPart (lastPart path) = lastPart path :=
  List.rtakeWhile_idempotent _ _

theorem splitAt_ne_nil (separator : Char) (path : List Char) : splitAt separator path ≠ [] := by
  induction path with
  | nil => simp [splitAt]
  | cons c rest ih =>
      unfold splitAt
      split
      · simp
      · split <;> simp

theorem splitAt_append_separator (separator : Char) (front back : List Char) :
    splitAt separator (front ++ separator :: back) =
      splitAt separator front ++ splitAt separator back := by
  induction front with
  | nil => simp [splitAt]
  | cons c front ih =>
      rw [List.cons_append, splitAt, splitAt, ih]
      by_cases here : c = separator
      · rw [if_pos here, if_pos here, List.cons_append]
      · rw [if_neg here, if_neg here]
        cases parts : splitAt separator front with
        | nil => exact absurd parts (splitAt_ne_nil _ _)
        | cons part parts => rfl

theorem splitAt_of_notMem {separator : Char} {part : List Char} (h : separator ∉ part) :
    splitAt separator part = [part] := by
  induction part with
  | nil => rfl
  | cons c rest ih =>
      rw [List.mem_cons, not_or] at h
      rw [splitAt, if_neg (Ne.symm h.1), ih h.2]

theorem notMem_lastPart (path : List Char) : '/' ∉ lastPart path := by
  intro member
  have kept := List.mem_rtakeWhile_imp member
  simp at kept

theorem eq_append_lastPart (path : List Char) :
    path = lastPart path ∨ ∃ front, path = front ++ '/' :: lastPart path := by
  have whole : path.rdropWhile (· ≠ '/') ++ lastPart path = path := by
    simp [lastPart, List.rdropWhile, List.rtakeWhile, ← List.reverse_append]
  by_cases none : path.rdropWhile (· ≠ '/') = []
  · rw [none, List.nil_append] at whole
    exact .inl whole.symm
  · have ends := List.rdropWhile_last_not (· ≠ '/') path none
    simp only [decide_eq_true_eq, Decidable.not_not] at ends
    rw [← List.dropLast_append_getLast none, ends, List.append_assoc, List.singleton_append]
      at whole
    exact .inr ⟨_, whole.symm⟩

/-- The last part of a path is its last component. -/
theorem splitAt_eq (path : List Char) :
    ∃ parents, splitAt '/' path = parents ++ [lastPart path] := by
  have alone := splitAt_of_notMem (notMem_lastPart path)
  rcases eq_append_lastPart path with whole | ⟨front, whole⟩
  · exact ⟨[], (congrArg _ whole).trans alone⟩
  · refine ⟨splitAt '/' front, ?_⟩
    calc splitAt '/' path = splitAt '/' (front ++ '/' :: lastPart path) := congrArg _ whole
      _ = splitAt '/' front ++ [lastPart path] := by rw [splitAt_append_separator, alone]

theorem fileName?_eq {path : List Char} (active : isIdle (lastPart path) = false) :
    fileName? path = if lastPart path = parent then none else some (lastPart path) := by
  obtain ⟨parents, split⟩ := splitAt_eq path
  unfold fileName? components
  rw [split, List.filter_append, List.filter_singleton, active]
  simp

theorem isIdle_of_one_lt_length {component : List Char} (h : 1 < component.length) :
    isIdle component = false := by
  match component with
  | [] | [_] => simp at h
  | _ :: _ :: _ => simp [isIdle]

theorem splitLastDot_eq_none {name : List Char} (h : '.' ∉ name) : splitLastDot name = none := by
  induction name with
  | nil => rfl
  | cons c rest ih =>
      rw [List.mem_cons, not_or] at h
      simp only [splitLastDot, ih h.2]
      rw [if_neg (Ne.symm h.1)]

theorem splitLastDot_append {stem extension : List Char} (h : '.' ∉ extension) :
    splitLastDot (stem ++ '.' :: extension) = some (stem, extension) := by
  induction stem with
  | nil => simp [splitLastDot, splitLastDot_eq_none h]
  | cons c stem ih => simp [splitLastDot, ih]

theorem stemAndExtension?_append {stem extension : List Char} (named : stem ≠ [])
    (h : '.' ∉ extension) :
    stemAndExtension? (stem ++ '.' :: extension) = some (stem, extension) := by
  unfold stemAndExtension?
  rw [splitLastDot_append h]
  cases stem with
  | nil => exact absurd rfl named
  | cons c stem => rfl

/-- A path that goes on with a dot and an extension, taken apart. -/
theorem parts_append {path extension : List Char} (named : lastPart path ≠ [])
    (undotted : '.' ∉ extension) (slashless : '/' ∉ '.' :: extension)
    (long : 2 ≤ extension.length) :
    (fileName? (path ++ '.' :: extension)).bind stemAndExtension? =
      some (lastPart path, extension) := by
  have last : lastPart (path ++ '.' :: extension) = lastPart path ++ '.' :: extension :=
    lastPart_append slashless
  have size : (lastPart path ++ '.' :: extension).length =
      (lastPart path).length + (extension.length + 1) := by
    rw [List.length_append, List.length_cons]
  have active : isIdle (lastPart (path ++ '.' :: extension)) = false := by
    refine isIdle_of_one_lt_length ?_
    rw [last]
    omega
  have notParent : lastPart path ++ '.' :: extension ≠ parent := by
    intro same
    have two : (lastPart path ++ '.' :: extension).length = 2 := by rw [same]; rfl
    omega
  rw [fileName?_eq active, last, if_neg notParent]
  exact stemAndExtension?_append named undotted

end Path

namespace Format

theorem ofPath?_eq (path : List Char) : ofPath? path =
    match (Path.fileName? path).bind Path.stemAndExtension? with
    | none => none
    | some (stem, extension) =>
      if lower extension = screamTracker.name.toList then some .screamTracker
      else if lower extension = protracker.name.toList then some .protracker
      else if lower extension = ['g', 'z'] then ofPath? stem
      else none := by
  rw [ofPath?]
  split <;> simp [*]

theorem ofPath?_congr {path path' : List Char} (h : Path.fileName? path = Path.fileName? path') :
    ofPath? path = ofPath? path' := by
  rw [ofPath?_eq, ofPath?_eq, h]

/-- The ending of a compressed file, in any case. -/
def compressedEndings : List (List Char) :=
  [".gz".toList, ".gZ".toList, ".Gz".toList, ".GZ".toList]

/-- An ending of a compressed file, taken apart. -/
theorem exists_of_mem_compressedEndings {ending : List Char} (h : ending ∈ compressedEndings) :
    ∃ extension, ending = '.' :: extension ∧ '.' ∉ extension ∧ '/' ∉ ending ∧
      lower extension = ['g', 'z'] := by
  have each : ∀ ending ∈ compressedEndings, ending = '.' :: ending.tail ∧ '.' ∉ ending.tail ∧
      '/' ∉ ending ∧ lower ending.tail = ['g', 'z'] := by decide
  exact ⟨_, each ending h⟩

theorem isIdle_append_ending {path ending : List Char} (compressed : ending ∈ compressedEndings) :
    Path.isIdle (Path.lastPart (path ++ ending)) = false := by
  obtain ⟨extension, rfl, -, slashless, gz⟩ := exists_of_mem_compressedEndings compressed
  have two : extension.length = 2 := by simpa [lower] using congrArg List.length gz
  refine Path.isIdle_of_one_lt_length ?_
  rw [Path.lastPart_append slashless, List.length_append, List.length_cons, two]
  omega

/-- The ending of a compressed file says nothing about the format. -/
theorem ofPath?_append_ending {path ending : List Char}
    (active : Path.isIdle (Path.lastPart path) = false) (compressed : ending ∈ compressedEndings) :
    ofPath? (path ++ ending) = ofPath? path := by
  obtain ⟨extension, rfl, undotted, slashless, gz⟩ := exists_of_mem_compressedEndings compressed
  have two : extension.length = 2 := by simpa [lower] using congrArg List.length gz
  have named : Path.lastPart path ≠ [] := by
    intro nothing
    rw [nothing] at active
    cases active
  have parts := Path.parts_append named undotted slashless (by omega)
  have own : Path.fileName? (Path.lastPart path) = Path.fileName? path := by
    rw [Path.fileName?_eq active, Path.fileName?_eq, Path.lastPart_lastPart]
    rwa [Path.lastPart_lastPart]
  calc ofPath? (path ++ '.' :: extension) = ofPath? (Path.lastPart path) := by
        rw [ofPath?_eq, parts]
        simp only [gz]
        rfl
    _ = ofPath? path := ofPath?_congr own

/-- The extension that is a format's name, in any case, names that format. -/
theorem ofPath?_append_extension {path extension : List Char} {format : Format}
    (named : Path.lastPart path ≠ []) (spelled : lower extension = format.name.toList) :
    ofPath? (path ++ '.' :: extension) = some format ∧
      Path.isIdle (Path.lastPart (path ++ '.' :: extension)) = false := by
  have three : extension.length = 3 := by
    have length : extension.length = format.name.toList.length := by
      rw [← spelled, lower, List.length_map]
    cases format <;> exact length
  have undotted : '.' ∉ extension := by
    intro member
    have kept : '.' ∈ format.name.toList := spelled ▸ List.mem_map_of_mem (f := Char.toLower) member
    cases format <;> revert kept <;> decide
  have slashless : '/' ∉ '.' :: extension := by
    intro member
    have member : '/' ∈ extension := (List.mem_cons.1 member).resolve_left (by decide)
    have kept : '/' ∈ format.name.toList := spelled ▸ List.mem_map_of_mem (f := Char.toLower) member
    cases format <;> revert kept <;> decide
  constructor
  · rw [ofPath?_eq, Path.parts_append named undotted slashless (by omega)]
    simp only [spelled]
    cases format with
    | screamTracker => rw [if_pos rfl]
    | protracker => rw [if_neg (by decide), if_pos rfl]
  · refine Path.isIdle_of_one_lt_length ?_
    rw [Path.lastPart_append slashless, List.length_append, List.length_cons, three]
    omega

/-- Nor do any number of such endings. -/
theorem ofPath?_append_endings {path : List Char} {endings : List (List Char)}
    (active : Path.isIdle (Path.lastPart path) = false)
    (compressed : ∀ ending ∈ endings, ending ∈ compressedEndings) :
    ofPath? (path ++ endings.flatten) = ofPath? path := by
  induction endings generalizing path with
  | nil => rw [List.flatten_nil, List.append_nil]
  | cons ending endings ih =>
      rw [List.forall_mem_cons] at compressed
      rw [List.flatten_cons, ← List.append_assoc,
        ih (isIdle_append_ending compressed.1) compressed.2,
        ofPath?_append_ending active compressed.1]

end Format

end Chiptune

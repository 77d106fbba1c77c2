import Chiptune.Protracker.Period
import Chiptune.Sound
import Mathlib.Data.Int.Basic
import Mathlib.Data.List.Pairwise

/-!
# The nearest note

A period is played as the note whose period is nearest to it. The scan of the
table keeps the first nearest entry of what it has seen, so in the end it has
the first nearest entry of the whole table, which is the lower note where a
period lies half-way. Since the periods of the table fall from note to note,
every entry is the nearest one to itself, and a longer period is never played
as a higher note.
-/

namespace Chiptune.Protracker

/-- An entry at least as near to the period as all entries, and nearer than
those before it. -/
structure FirstNearest (period : Nat) (entries : List Nat) (i : Nat) : Prop where
  inside : i < entries.length
  least : ∀ j, (h : j < entries.length) →
    ((period : Int) - entries[i]).natAbs ≤ ((period : Int) - entries[j]).natAbs
  first : ∀ j, (h : j < i) →
    ((period : Int) - entries[i]).natAbs < ((period : Int) - entries[j]).natAbs

theorem distance_eq_natAbs (p q : Nat) : distance p q = ((p : Int) - q).natAbs := by
  unfold distance
  omega

namespace FirstNearest

variable {period : Nat} {entries : List Nat} {i : Nat}

/-- How far the period is from its nearest entry. -/
def gap (h : FirstNearest period entries i) : Nat :=
  ((period : Int) - entries.get ⟨i, h.inside⟩).natAbs

/-- A first entry is the nearest one so far. -/
theorem singleton (period entry : Nat) : FirstNearest period [entry] 0 where
  inside := Nat.zero_lt_one
  least j h := by
    obtain rfl : j = 0 := by simpa using h
    exact Nat.le_refl _
  first j h := absurd h (Nat.not_lt_zero j)

/-- An entry nearer than the nearest one so far takes its place. -/
theorem append_nearer (h : FirstNearest period entries i) {entry : Nat}
    (nearer : ((period : Int) - entry).natAbs < h.gap) :
    FirstNearest period (entries ++ [entry]) entries.length where
  inside := by simp
  least j inside := by
    rw [List.getElem_concat_length rfl]
    by_cases before : j < entries.length
    · rw [List.getElem_append_left before]
      exact Nat.le_trans (Nat.le_of_lt nearer) (h.least j before)
    · obtain rfl : j = entries.length := by simp at inside; omega
      rw [List.getElem_concat_length rfl]
  first j before := by
    rw [List.getElem_concat_length rfl, List.getElem_append_left before]
    exact Nat.lt_of_lt_of_le nearer (h.least j before)

/-- An entry that is not nearer leaves the nearest one so far in place. -/
theorem append_farther (h : FirstNearest period entries i) {entry : Nat}
    (farther : h.gap ≤ ((period : Int) - entry).natAbs) :
    FirstNearest period (entries ++ [entry]) i where
  inside := by
    have := h.inside
    simp
    omega
  least j inside := by
    rw [List.getElem_append_left h.inside]
    by_cases before : j < entries.length
    · rw [List.getElem_append_left before]
      exact h.least j before
    · obtain rfl : j = entries.length := by simp at inside; omega
      rw [List.getElem_concat_length rfl]
      exact farther
  first j before := by
    rw [List.getElem_append_left h.inside,
      List.getElem_append_left (Nat.lt_trans before h.inside)]
    exact h.first j before

theorem unique (h : FirstNearest period entries i) {j : Nat}
    (h' : FirstNearest period entries j) : i = j := by
  rcases Nat.lt_trichotomy i j with before | same | behind
  · exact absurd (h.least j h'.inside) (Nat.not_le_of_lt (h'.first i before))
  · exact same
  · exact absurd (h'.least i h.inside) (Nat.not_le_of_lt (h.first j behind))

/-- Where the entries fall, an entry is the nearest one to itself. -/
theorem self (falling : entries.Pairwise (· > ·)) (inside : i < entries.length) :
    FirstNearest entries[i] entries i where
  inside := inside
  least j h := by simp
  first j before := by
    have above : entries[i] < entries[j] :=
      List.pairwise_iff_getElem.1 falling j i _ inside before
    omega

/-- Where the entries fall, a longer period has its nearest entry no later. -/
theorem antitone (falling : entries.Pairwise (· > ·)) {longer j : Nat} (le : period ≤ longer)
    (h : FirstNearest period entries i) (h' : FirstNearest longer entries j) : j ≤ i := by
  by_contra later
  have before : i < j := Nat.lt_of_not_le later
  have inside : i < entries.length := h.inside
  have inside' : j < entries.length := h'.inside
  have above : entries[j] < entries[i] :=
    List.pairwise_iff_getElem.1 falling i j inside inside' before
  -- the period is no farther from the upper entry than from the lower one, and the
  -- longer period is nearer to the lower one, though it lies farther up
  have near : ((period : Int) - entries[i]).natAbs ≤ ((period : Int) - entries[j]).natAbs :=
    h.least j inside'
  have nearer : ((longer : Int) - entries[j]).natAbs < ((longer : Int) - entries[i]).natAbs :=
    h'.first i before
  omega

end FirstNearest

/-- The scan goes on from the first nearest entry of what it has seen to that of
the whole list. -/
theorem nearestFrom_firstNearest {period found : Nat} {seen : List Nat}
    (h : FirstNearest period seen found) (entries : List Nat) :
    FirstNearest period (seen ++ entries)
      (nearestFrom period found h.gap seen.length entries) := by
  induction entries generalizing seen found with
  | nil =>
      rw [List.append_nil, nearestFrom]
      exact h
  | cons entry entries ih =>
      have whole : seen ++ entry :: entries = (seen ++ [entry]) ++ entries := by simp
      have length : seen.length + 1 = (seen ++ [entry]).length := by simp
      rw [nearestFrom, distance_eq_natAbs, whole, length]
      split
      case isTrue nearer =>
        have next := h.append_nearer nearer
        have gap : next.gap = ((period : Int) - entry).natAbs := by
          unfold FirstNearest.gap
          rw [List.get_eq_getElem, List.getElem_concat_length rfl]
        rw [← gap]
        exact ih next
      case isFalse farther =>
        have next := h.append_farther (Nat.le_of_not_lt farther)
        have gap : next.gap = h.gap := by
          unfold FirstNearest.gap
          rw [List.get_eq_getElem, List.getElem_append_left h.inside]
          rfl
        rw [← gap]
        exact ih next

theorem periods_falling : periods.Pairwise (· > ·) := by decide

theorem nearest_firstNearest {period : Nat} (le : period ≤ 1712) :
    FirstNearest period periods (nearest period) := by
  have scan := nearestFrom_firstNearest (.singleton period 1712) periods.tail
  have near : distance period 1712 < 0xFFFF := by
    unfold distance
    omega
  have start : nearest period =
      nearestFrom period 0 (distance period 1712) 1 periods.tail := if_pos near
  rw [start, distance_eq_natAbs]
  exact scan

/-- The entry found lies in the table, or else it was found before. -/
theorem nearestFrom_lt {period bound : Nat} (entries : List Nat) {found best index : Nat}
    (inside : found < bound) (rest : index + entries.length ≤ bound) :
    nearestFrom period found best index entries < bound := by
  induction entries generalizing found best index with
  | nil => exact inside
  | cons entry entries ih =>
      rw [List.length_cons] at rest
      rw [nearestFrom]
      split
      · exact ih (by omega) (by omega)
      · exact ih inside (by omega)

theorem nearest_lt (period : Nat) : nearest period < Sound.noteCount :=
  nearestFrom_lt periods (by decide) (by decide)

theorem toNat_nearest (period : Nat) :
    (UInt8.ofNat (nearest period)).toNat = nearest period :=
  UInt8.toNat_ofNat_of_lt' (Nat.lt_trans (nearest_lt period) (by decide))

theorem noteOfPeriod_eq_nearest {period : Nat} (ge : 28 ≤ period) (le : period ≤ 1712) :
    noteOfPeriod period = .ok (some (UInt8.ofNat (nearest period))) := by
  rw [noteOfPeriod, if_neg (by omega), if_neg (by unfold shortestPeriod; omega),
    if_neg (by unfold longestPeriod; omega)]

theorem noteOfPeriod_eq_none_iff {period : Nat} :
    noteOfPeriod period = .ok none ↔ period = 0 := by
  unfold noteOfPeriod
  split_ifs <;> simp [*]

theorem noteOfPeriod_eq_tooHigh_iff {period : Nat} :
    noteOfPeriod period = .error .noteTooHigh ↔ 1 ≤ period ∧ period ≤ 27 := by
  unfold noteOfPeriod shortestPeriod longestPeriod
  split_ifs <;> simp <;> omega

theorem noteOfPeriod_eq_tooLow_iff {period : Nat} :
    noteOfPeriod period = .error .noteTooLow ↔ 1712 < period := by
  unfold noteOfPeriod shortestPeriod longestPeriod
  split_ifs <;> simp <;> omega

/-- Period zero is no note, periods beyond the table are faults, and every other
period is played as the first nearest entry of the table. So the periods of the
table are played as their own notes, and a longer period is never played as a
higher note. -/
theorem noteOfPeriod_is_nearest :
    (∀ period, noteOfPeriod period = .ok none ↔ period = 0) ∧
    (∀ period, noteOfPeriod period = .error .noteTooHigh ↔ 1 ≤ period ∧ period ≤ 27) ∧
    (∀ period, noteOfPeriod period = .error .noteTooLow ↔ 1712 < period) ∧
    (∀ period, 28 ≤ period → period ≤ 1712 → ∃ note : UInt8,
      noteOfPeriod period = .ok (some note) ∧
        ∀ i, FirstNearest period periods i ↔ i = note.toNat) ∧
    (∀ i, (h : i < periods.length) → noteOfPeriod periods[i] = .ok (some (UInt8.ofNat i))) ∧
    ∀ period longer, 28 ≤ period → period ≤ longer → longer ≤ 1712 →
      ∃ note lower : UInt8, noteOfPeriod period = .ok (some note) ∧
        noteOfPeriod longer = .ok (some lower) ∧ lower ≤ note := by
  refine ⟨fun _ => noteOfPeriod_eq_none_iff, fun _ => noteOfPeriod_eq_tooHigh_iff,
    fun _ => noteOfPeriod_eq_tooLow_iff, ?nearest, ?entries, ?antitone⟩
  case nearest =>
    intro period ge le
    have found := nearest_firstNearest le
    refine ⟨_, noteOfPeriod_eq_nearest ge le, fun i => ?_⟩
    rw [toNat_nearest]
    constructor
    · intro h
      exact h.unique found
    · rintro rfl
      exact found
  case entries =>
    intro i inside
    have range : ∀ entry ∈ periods, 28 ≤ entry ∧ entry ≤ 1712 := by decide
    obtain ⟨ge, le⟩ := range _ (List.getElem_mem inside)
    have own : FirstNearest periods[i] periods i := .self periods_falling inside
    rw [noteOfPeriod_eq_nearest ge le, ← own.unique (nearest_firstNearest le)]
  case antitone =>
    intro period longer ge le le'
    have near := nearest_firstNearest (Nat.le_trans le le')
    have near' := nearest_firstNearest le'
    refine ⟨_, _, noteOfPeriod_eq_nearest ge (Nat.le_trans le le'),
      noteOfPeriod_eq_nearest (Nat.le_trans ge le) le', ?_⟩
    rw [UInt8.le_iff_toNat_le, toNat_nearest, toNat_nearest]
    exact near.antitone periods_falling le near'

/-- Half-way between the first two periods the lower note is played, and from
there on the next one. -/
theorem noteOfPeriod_halfway_is_nearest :
    noteOfPeriod 1664 = .ok (some 0) ∧ (∀ i, FirstNearest 1664 periods i ↔ i = 0) ∧
      noteOfPeriod 1663 = .ok (some 1) ∧ (∀ i, FirstNearest 1663 periods i ↔ i = 1) := by
  obtain ⟨-, -, -, nearest, -, -⟩ := noteOfPeriod_is_nearest
  obtain ⟨note, played, found⟩ := nearest 1664 (by decide) (by decide)
  obtain ⟨next, played', found'⟩ := nearest 1663 (by decide) (by decide)
  have lower : noteOfPeriod 1664 = .ok (some 0) := by decide
  have upper : noteOfPeriod 1663 = .ok (some 1) := by decide
  cases lower.symm.trans played
  cases upper.symm.trans played'
  exact ⟨lower, found, upper, found'⟩

end Chiptune.Protracker

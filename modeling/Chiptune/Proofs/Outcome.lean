import Chiptune.Journal
import Mathlib.Data.List.Forall2

/-!
# Outcomes of steps and lists of steps

A step has a value or a cause of failure. Steps in sequence succeed together or
fail at the first one that fails; the same holds of the members of a list, whose
outcome names the first member that fails. The outcome of a journal is that of
the steps without their events.
-/

namespace Chiptune

variable {ε ε' α β : Type}

theorem bind_eq_ok_iff {x : Except ε α} {f : α → Except ε β} {b : β} :
    x >>= f = .ok b ↔ ∃ a, x = .ok a ∧ f a = .ok b := by
  cases x with
  | error cause => simp [bind, Except.bind]
  | ok a => simp [bind, Except.bind]

theorem bind_eq_error_iff {x : Except ε α} {f : α → Except ε β} {cause : ε} :
    x >>= f = .error cause ↔ x = .error cause ∨ ∃ a, x = .ok a ∧ f a = .error cause := by
  cases x with
  | error cause => simp [bind, Except.bind]
  | ok a => simp [bind, Except.bind]

@[simp] theorem ok_bind (a : α) (f : α → Except ε β) : (.ok a : Except ε α) >>= f = f a := rfl

@[simp] theorem error_bind (cause : ε) (f : α → Except ε β) :
    (.error cause : Except ε α) >>= f = .error cause := rfl

@[simp] theorem pure_eq_ok (a : α) : (pure a : Except ε α) = .ok a := rfl

theorem exists_bind_ok_eq_ok_iff {x : Except ε α} {f : α → β} :
    (∃ b, (x >>= fun a => .ok (f a)) = .ok b) ↔ ∃ a, x = .ok a := by
  cases x <;> simp

theorem bind_ok_eq_error_iff {x : Except ε α} {f : α → β} {cause : ε} :
    (x >>= fun a => .ok (f a)) = .error cause ↔ x = .error cause := by
  cases x <;> simp

theorem map_eq_ok_iff {x : Except ε α} {f : α → β} {b : β} :
    x.map f = .ok b ↔ ∃ a, x = .ok a ∧ f a = b := by
  cases x <;> simp [Except.map]

theorem exists_map_eq_ok_iff {x : Except ε α} {f : α → β} :
    (∃ b, x.map f = .ok b) ↔ ∃ a, x = .ok a := by
  cases x <;> simp [Except.map]

theorem map_eq_error_iff {x : Except ε α} {f : α → β} {cause : ε} :
    x.map f = .error cause ↔ x = .error cause := by
  cases x <;> simp [Except.map]

theorem mapError_eq_ok_iff {x : Except ε α} {f : ε → ε'} {a : α} :
    x.mapError f = .ok a ↔ x = .ok a := by
  cases x <;> simp [Except.mapError]

theorem mapError_eq_error_iff {x : Except ε α} {f : ε → ε'} {cause : ε'} :
    x.mapError f = .error cause ↔ ∃ cause', x = .error cause' ∧ f cause' = cause := by
  cases x <;> simp [Except.mapError]

/-- A step that has no value has a cause, and the other way round. -/
theorem exists_ok_or_error (x : Except ε α) : (∃ a, x = .ok a) ∨ ∃ cause, x = .error cause := by
  cases x with
  | error cause => exact .inr ⟨cause, rfl⟩
  | ok a => exact .inl ⟨a, rfl⟩

theorem exists_error_iff {x : Except ε α} : (∃ cause, x = .error cause) ↔ ¬ ∃ a, x = .ok a := by
  cases x <;> simp

/-- The members of a list succeed together, each with its value. -/
theorem mapM_eq_ok_iff {f : α → Except ε β} {items : List α} {results : List β} :
    items.mapM f = .ok results ↔ List.Forall₂ (fun a b => f a = .ok b) items results := by
  induction items generalizing results with
  | nil => cases results <;> simp
  | cons a items ih =>
      rw [List.mapM_cons]
      simp only [bind_eq_ok_iff, pure_eq_ok, ih, Except.ok.injEq]
      constructor
      · intro h
        obtain ⟨b, ha, rest, hrest, rfl⟩ := h
        exact .cons ha hrest
      · intro h
        rcases h with _ | ⟨ha, hrest⟩
        exact ⟨_, ha, _, hrest, rfl⟩

theorem exists_mapM_eq_ok_iff {f : α → Except ε β} {items : List α} :
    (∃ results, items.mapM f = .ok results) ↔ ∀ a ∈ items, ∃ b, f a = .ok b := by
  induction items with
  | nil => simp
  | cons a items ih =>
      simp only [List.mapM_cons, bind_eq_ok_iff, pure_eq_ok, List.forall_mem_cons, ← ih,
        Except.ok.injEq]
      constructor
      · intro h
        obtain ⟨_, b, ha, results, hr, -⟩ := h
        exact ⟨⟨b, ha⟩, results, hr⟩
      · intro h
        obtain ⟨⟨b, ha⟩, results, hr⟩ := h
        exact ⟨_, b, ha, results, hr, rfl⟩

/-- What is known of each value of a list of steps is known of the whole list. -/
theorem map_eq_map_of_mapM {γ : Type} {f : α → Except ε β} {g : β → γ} {h : α → γ}
    {items : List α} {results : List β} (ok : items.mapM f = .ok results)
    (each : ∀ a ∈ items, ∀ b, f a = .ok b → g b = h a) : results.map g = items.map h := by
  rw [mapM_eq_ok_iff] at ok
  induction ok with
  | nil => rfl
  | cons first rest ih =>
      rw [List.map_cons, List.map_cons, each _ (.head _) _ first]
      rw [ih fun a member => each a (.tail _ member)]

theorem mapM_eq_mapM {γ : Type} {f : α → Except ε β} {g : γ → Except ε β} {items : List α}
    {others : List γ} (same : List.Forall₂ (fun a c => f a = g c) items others) :
    items.mapM f = others.mapM g := by
  induction same with
  | nil => rfl
  | cons first rest ih => rw [List.mapM_cons, List.mapM_cons, first, ih]

/-- If every member of a list that has a value has it in a second run too, then so
does the list. -/
theorem mapM_eq_ok_of_imp {f g : α → Except ε β} {items : List α} {results : List β}
    (keeps : ∀ a ∈ items, ∀ b, f a = .ok b → g a = .ok b) (ok : items.mapM f = .ok results) :
    items.mapM g = .ok results := by
  rw [mapM_eq_ok_iff] at ok ⊢
  induction ok with
  | nil => exact .nil
  | cons first rest ih =>
      exact .cons (keeps _ (.head _) _ first) (ih fun a member => keeps a (.tail _ member))

theorem mapM_range_eq_ok_iff {f : Nat → Except ε β} {n : Nat} {results : List β} :
    (List.range n).mapM f = .ok results ↔ results.length = n ∧
      ∀ (k : Nat) (h : k < results.length), f k = .ok results[k] := by
  simp only [mapM_eq_ok_iff, List.forall₂_iff_get, List.length_range, List.get_eq_getElem,
    List.getElem_range]
  constructor
  · intro h
    exact ⟨h.1.symm, fun k hk => h.2 k (by omega) hk⟩
  · intro h
    exact ⟨h.1.symm, fun k _ hk => h.2 k hk⟩

/-- A list fails at the first of its members that fails. -/
theorem mapM_eq_error_iff {f : α → Except ε β} {items : List α} {cause : ε} :
    items.mapM f = .error cause ↔ ∃ (k : Nat) (h : k < items.length),
      (∀ (j : Nat) (hj : j < k), ∃ b, f items[j] = .ok b) ∧ f items[k] = .error cause := by
  induction items with
  | nil => simp
  | cons a items ih =>
      rw [List.mapM_cons]
      simp only [bind_eq_error_iff, pure_eq_ok, ih]
      constructor
      · intro h
        rcases h with first | ⟨b, ha, later | ⟨rest, -, ⟨⟩⟩⟩
        · exact ⟨0, by simp, by simp, first⟩
        · obtain ⟨k, hk, before, failed⟩ := later
          refine ⟨k + 1, by simpa using hk, ?_, by simpa using failed⟩
          intro j hj
          cases j with
          | zero => exact ⟨b, ha⟩
          | succ j => exact before j (by omega)
      · intro h
        obtain ⟨k, hk, before, failed⟩ := h
        cases k with
        | zero => exact .inl failed
        | succ k =>
            obtain ⟨b, ha⟩ := before 0 (by omega)
            refine .inr ⟨b, ha, .inl ⟨k, by simpa using hk, ?_, by simpa using failed⟩⟩
            intro j hj
            simpa using before (j + 1) (by omega)

/-- In an ascending list the members before a failing one are the smaller ones. -/
theorem mapM_eq_error_iff_of_ascending [LT α] [Std.Asymm fun a b : α => a < b] {f : α → Except ε β}
    {items : List α} {cause : ε} (ascending : items.Pairwise (· < ·)) :
    items.mapM f = .error cause ↔
      ∃ a ∈ items, (∀ x ∈ items, x < a → ∃ b, f x = .ok b) ∧ f a = .error cause := by
  rw [mapM_eq_error_iff]
  rw [List.pairwise_iff_getElem] at ascending
  constructor
  · intro h
    obtain ⟨k, hk, before, failed⟩ := h
    refine ⟨items[k], List.getElem_mem hk, ?_, failed⟩
    intro x hx smaller
    obtain ⟨j, hj, rfl⟩ := List.getElem_of_mem hx
    refine before j (Nat.lt_of_not_le fun le => ?_)
    rcases Nat.lt_or_eq_of_le le with lt | rfl
    · exact Std.Asymm.asymm _ _ smaller (ascending k j hk hj lt)
    · exact Std.Asymm.asymm _ _ smaller smaller
  · intro h
    obtain ⟨a, ha, before, failed⟩ := h
    obtain ⟨k, hk, rfl⟩ := List.getElem_of_mem ha
    refine ⟨k, hk, ?_, failed⟩
    intro j hj
    exact before _ (List.getElem_mem _) (ascending j k (by omega) hk hj)

namespace Journal

@[simp] theorem note_outcome (event : Event) : (note event : Journal ε Unit).outcome = .ok () := rfl

@[simp] theorem noteAll_outcome (events : List Event) :
    (noteAll events : Journal ε Unit).outcome = .ok () := rfl

@[simp] theorem noteIf_outcome (condition : Bool) (event : Event) :
    (noteIf condition event : Journal ε Unit).outcome = .ok () := rfl

@[simp] theorem ofExcept_outcome (outcome : Except ε α) : (ofExcept outcome).outcome = outcome :=
  rfl

@[simp] theorem mapError_outcome (f : ε → ε') (j : Journal ε α) :
    (j.mapError f).outcome = j.outcome.mapError f := rfl

/-- A list of journals has the outcome of its members' outcomes. -/
theorem traverse_outcome (f : α → Journal ε β) (items : List α) :
    (traverse f items).outcome = items.mapM fun a => (f a).outcome := by
  induction items with
  | nil => rfl
  | cons a items ih =>
      simp only [traverse_cons, bind_outcome, ih, List.mapM_cons]
      rfl

end Journal

end Chiptune

import Chiptune.Proofs.Outcome

/-!
# Warnings along the way

A run goes along a list of places. Each of them is either passed, perhaps with a
warning, or the run stops there, and then nothing is told of this place and of
those behind it. What runs in sequence goes along the places of its parts, one
after the other.
-/

namespace Chiptune

variable {ι ε ε' α β : Type}

namespace Journal

/-- The texts of the warnings in a journal, in their order. -/
def warnings (j : Journal ε α) : List String :=
  (j.events.filter fun event => event.level = .warn).map Event.message

theorem warnings_bind_of_ok {j : Journal ε α} {a : α} (h : j.outcome = .ok a)
    (f : α → Journal ε β) : (j >>= f).warnings = j.warnings ++ (f a).warnings := by
  rw [bind_of_ok h, warnings, List.filter_append, List.map_append]
  rfl

theorem warnings_bind_of_error {j : Journal ε α} {cause : ε} (h : j.outcome = .error cause)
    (f : α → Journal ε β) : (j >>= f).warnings = j.warnings := by
  rw [bind_of_error h]
  rfl

@[simp] theorem warnings_pure (a : α) : (Pure.pure a : Journal ε α).warnings = [] := rfl

@[simp] theorem warnings_ofExcept (outcome : Except ε α) : (ofExcept outcome).warnings = [] := rfl

@[simp] theorem warnings_mapError (f : ε → ε') (j : Journal ε α) :
    (j.mapError f).warnings = j.warnings := rfl

end Journal

/-- What can happen at the places of a run. -/
structure Road (ι ε : Type) where
  /-- The run goes on behind the place. -/
  Passes : ι → Prop
  /-- The run ends at the place, for a cause. -/
  Stops : ι → ε → Prop
  /-- The text with which the place is passed. -/
  warning? : ι → Option String

/-- A run goes along the places of a road: it passes them all and has told the
warnings of all, or it stops at one of them and has told the warnings of those
before. -/
structure Journal.Follows (j : Journal ε α) (road : Road ι ε) (places : List ι) : Prop where
  completed : ∀ a, j.outcome = .ok a →
    (∀ p ∈ places, road.Passes p) ∧ j.warnings = places.filterMap road.warning?
  stopped : ∀ cause, j.outcome = .error cause → ∃ before place after,
    places = before ++ place :: after ∧ (∀ p ∈ before, road.Passes p) ∧
      road.Stops place cause ∧ j.warnings = before.filterMap road.warning?

namespace Journal.Follows

variable {road : Road ι ε} {places places' : List ι}

/-- A run that visits no place. -/
theorem of_ok {j : Journal ε α} {a : α} (outcome : j.outcome = .ok a) (quiet : j.warnings = []) :
    j.Follows road [] where
  completed _ _ := ⟨by simp, quiet⟩
  stopped cause failed := by
    rw [outcome] at failed
    cases failed

theorem of_stop {j : Journal ε α} {place : ι} {cause : ε} (outcome : j.outcome = .error cause)
    (stops : road.Stops place cause) (quiet : j.warnings = []) :
    j.Follows road (place :: places) where
  completed a completed := by
    rw [outcome] at completed
    cases completed
  stopped cause' failed := by
    rw [outcome] at failed
    cases failed
    exact ⟨[], place, places, rfl, by simp, stops, quiet⟩

theorem of_pass {j : Journal ε α} {place : ι} {a : α} (outcome : j.outcome = .ok a)
    (passes : road.Passes place) (told : j.warnings = (road.warning? place).toList) :
    j.Follows road [place] where
  completed _ _ := by
    refine ⟨by simpa using passes, ?_⟩
    rw [told]
    cases h : road.warning? place <;> simp [h]
  stopped cause failed := by
    rw [outcome] at failed
    cases failed

theorem bind {j : Journal ε α} {f : α → Journal ε β} (first : j.Follows road places)
    (next : ∀ a, j.outcome = .ok a → (f a).Follows road places') :
    (j >>= f).Follows road (places ++ places') := by
  cases h : j.outcome with
  | error cause =>
      obtain ⟨before, place, after, rfl, passed, stops, told⟩ := first.stopped cause h
      refine ⟨?_, ?_⟩
      · intro b completed
        rw [bind_of_error h] at completed
        cases completed
      · intro cause' failed
        rw [bind_of_error h] at failed
        cases failed
        refine ⟨before, place, after ++ places', by simp, passed, stops, ?_⟩
        rw [warnings_bind_of_error h, told]
  | ok a =>
      obtain ⟨passed, told⟩ := first.completed a h
      have outcome : (j >>= f).outcome = (f a).outcome := by rw [bind_of_ok h]
      refine ⟨?_, ?_⟩
      · intro b completed
        obtain ⟨passed', told'⟩ := (next a h).completed b (outcome ▸ completed)
        refine ⟨List.forall_mem_append.2 ⟨passed, passed'⟩, ?_⟩
        rw [warnings_bind_of_ok h, told, told', List.filterMap_append]
      · intro cause failed
        obtain ⟨before, place, after, rfl, passed', stops, told'⟩ :=
          (next a h).stopped cause (outcome ▸ failed)
        refine ⟨places ++ before, place, after, by simp,
          List.forall_mem_append.2 ⟨passed, passed'⟩, stops, ?_⟩
        rw [warnings_bind_of_ok h, told, told', List.filterMap_append]

/-- A first step that visits no place and tells no warning can be added to a run. -/
theorem quiet_bind {j : Journal ε α} {a : α} {f : α → Journal ε β} (outcome : j.outcome = .ok a)
    (quiet : j.warnings = []) (next : (f a).Follows road places) :
    (j >>= f).Follows road places := by
  refine (of_ok outcome quiet).bind fun a' outcome' => ?_
  rw [outcome] at outcome'
  cases outcome'
  exact next

/-- A last step that visits no place can be added to a run. -/
theorem bind_pure {j : Journal ε α} (follows : j.Follows road places) (f : α → β) :
    (j >>= fun a => Pure.pure (f a)).Follows road places := by
  simpa using follows.bind fun a _ => of_ok (pure_outcome (f a)) (warnings_pure (f a))

/-- A list of runs goes along the places of each of them. -/
theorem traverse {f : α → Journal ε β} {items : List α} {placesOf : α → List ι}
    (each : ∀ a ∈ items, (f a).Follows road (placesOf a)) :
    (Journal.traverse f items).Follows road (items.flatMap placesOf) := by
  induction items with
  | nil => exact of_ok rfl rfl
  | cons a items ih =>
      rw [traverse_cons, List.flatMap_cons]
      refine (each a (.head _)).bind fun b _ => ?_
      exact (ih fun a' member => each a' (.tail _ member)).bind_pure (b :: ·)

end Journal.Follows

end Chiptune

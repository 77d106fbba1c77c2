import Chiptune.Proofs.Outcome

/-!
# Two runs side by side

A step may be run twice, with different options. The runs are alike for a
relation if both fail with the same cause, or both succeed with values that the
relation joins. Steps in sequence stay alike as long as each step keeps what the
next one relies on, and lists of steps stay alike member by member.
-/

namespace Chiptune

/-- Both runs fail with one cause, or both succeed with related values. -/
inductive Alike {ε α β : Type} (R : α → β → Prop) : Except ε α → Except ε β → Prop
  | error (cause : ε) : Alike R (.error cause) (.error cause)
  | ok {a : α} {b : β} (related : R a b) : Alike R (.ok a) (.ok b)

namespace Alike

variable {ε ε' α β γ δ : Type} {R : α → β → Prop} {S : γ → δ → Prop}
  {x : Except ε α} {y : Except ε β}

theorem refl {R : α → α → Prop} (x : Except ε α) (related : ∀ a, x = .ok a → R a a) :
    Alike R x x := by
  cases x with
  | error cause => exact .error cause
  | ok a => exact .ok (related a rfl)

/-- After two steps that are alike, the next ones have to be alike only for
values that are related. -/
theorem bind {f : α → Except ε γ} {g : β → Except ε δ} (first : Alike R x y)
    (next : ∀ a b, R a b → Alike S (f a) (g b)) : Alike S (x >>= f) (y >>= g) := by
  cases first with
  | error cause => exact .error cause
  | ok related => exact next _ _ related

/-- After a step that no option changes, the next ones have to be alike for its
value only. -/
theorem bind_self (x : Except ε α) {f : α → Except ε γ} {g : α → Except ε δ}
    (next : ∀ a, x = .ok a → Alike S (f a) (g a)) : Alike S (x >>= f) (x >>= g) := by
  cases x with
  | error cause => exact .error cause
  | ok a => exact next a rfl

theorem mapError (f : ε → ε') (h : Alike R x y) : Alike R (x.mapError f) (y.mapError f) := by
  cases h with
  | error cause => exact .error (f cause)
  | ok related => exact .ok related

theorem map {f : α → γ} {g : β → δ} (h : Alike R x y) (keeps : ∀ a b, R a b → S (f a) (g b)) :
    Alike S (x.map f) (y.map g) := by
  cases h with
  | error cause => exact .error cause
  | ok related => exact .ok (keeps _ _ related)

theorem toOption (h : Alike R x y) : Option.Rel R x.toOption y.toOption := by
  cases h with
  | error cause => exact .none
  | ok related => exact .some related

/-- Lists of steps are alike if their members are. -/
theorem mapM {items : List γ} {f : γ → Except ε α} {g : γ → Except ε β}
    (each : ∀ c ∈ items, Alike R (f c) (g c)) :
    Alike (List.Forall₂ R) (items.mapM f) (items.mapM g) := by
  induction items with
  | nil => exact .ok .nil
  | cons c items ih =>
      have first : Alike R (f c) (g c) := each c (.head _)
      have later : Alike (List.Forall₂ R) (items.mapM f) (items.mapM g) :=
        ih fun c' member => each c' (.tail _ member)
      rw [List.mapM_cons, List.mapM_cons]
      apply first.bind
      intro a b related
      apply later.bind
      intro rest rest' relatedRest
      exact .ok (.cons related relatedRest)

end Alike

end Chiptune

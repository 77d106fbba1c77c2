/-!
# The four channels

The sound hardware has two pulse channels, a wave channel and a noise channel.
Trackers count them from one. `PerChannel` holds one value for each of them, in
that order.
-/

namespace Chiptune

/-- A hardware channel. -/
inductive Channel where
  | pulse1
  | pulse2
  | wave
  | noise
deriving DecidableEq, Repr

namespace Channel

def all : List Channel := [pulse1, pulse2, wave, noise]

/-- The number that trackers show, from one. -/
def number : Channel → Nat
  | pulse1 => 1
  | pulse2 => 2
  | wave => 3
  | noise => 4

/-- The position in a row, from zero. -/
def index : Channel → Nat
  | pulse1 => 0
  | pulse2 => 1
  | wave => 2
  | noise => 3

def ofIndex? : Nat → Option Channel
  | 0 => some pulse1
  | 1 => some pulse2
  | 2 => some wave
  | 3 => some noise
  | _ => none

def ofNumber? : Nat → Option Channel
  | 0 => none
  | n + 1 => ofIndex? n

@[simp] theorem ofIndex?_index (c : Channel) : ofIndex? c.index = some c := by
  cases c <;> rfl

theorem ofIndex?_eq_none_iff {n : Nat} : ofIndex? n = none ↔ 4 ≤ n := by
  match n with
  | 0 | 1 | 2 | 3 => simp [ofIndex?]
  | n + 4 => simp [ofIndex?]

@[simp] theorem mem_all (c : Channel) : c ∈ all := by cases c <;> simp [all]

/-- What holds of the four channels holds of every channel. -/
protected theorem forall_iff {P : Channel → Prop} :
    (∀ c, P c) ↔ P pulse1 ∧ P pulse2 ∧ P wave ∧ P noise := by
  constructor
  · intro h
    exact ⟨h _, h _, h _, h _⟩
  · intro h c
    obtain ⟨first, second, third, fourth⟩ := h
    cases c <;> assumption

end Channel

/-- One value for each channel. -/
structure PerChannel (α : Type) where
  pulse1 : α
  pulse2 : α
  wave : α
  noise : α
deriving DecidableEq, Repr

namespace PerChannel

variable {α β : Type}

def get (values : PerChannel α) : Channel → α
  | .pulse1 => values.pulse1
  | .pulse2 => values.pulse2
  | .wave => values.wave
  | .noise => values.noise

def set (values : PerChannel α) (c : Channel) (a : α) : PerChannel α :=
  match c with
  | .pulse1 => { values with pulse1 := a }
  | .pulse2 => { values with pulse2 := a }
  | .wave => { values with wave := a }
  | .noise => { values with noise := a }

def ofFn (f : Channel → α) : PerChannel α :=
  ⟨f .pulse1, f .pulse2, f .wave, f .noise⟩

def toList (values : PerChannel α) : List α :=
  [values.pulse1, values.pulse2, values.wave, values.noise]

@[simp] theorem get_ofFn (f : Channel → α) (c : Channel) : (ofFn f).get c = f c := by
  cases c <;> rfl

@[simp] theorem get_set_self (values : PerChannel α) (c : Channel) (a : α) :
    (values.set c a).get c = a := by
  cases c <;> rfl

theorem get_set_of_ne (values : PerChannel α) {c d : Channel} (a : α) (h : d ≠ c) :
    (values.set c a).get d = values.get d := by
  cases c <;> cases d <;> simp_all [get, set]

@[ext] theorem ext_get {u v : PerChannel α} (h : ∀ c, u.get c = v.get c) : u = v := by
  cases u; cases v
  have h₁ := h .pulse1
  have h₂ := h .pulse2
  have h₃ := h .wave
  have h₄ := h .noise
  simp_all [get]

end PerChannel

end Chiptune

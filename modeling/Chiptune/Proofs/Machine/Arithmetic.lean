import Chiptune.Proofs.Image
import Chiptune.Proofs.Outcome
import Mathlib.Algebra.GroupWithZero.Nat
import Mathlib.Algebra.Order.BigOperators.Group.List
import Mathlib.Algebra.Order.Group.Nat

/-!
# Steps of a machine with fixed widths

A real machine computes with numbers of a fixed width and with indices into
lists of a known length. Its steps can leave their range: a sum or a product
that does not fit, a difference below zero, a shift by the whole width or one
that loses bits, a number that is cut down to a byte, an index or a range outside
of a list. Such a step has no value here, so that a computation has one only if
every step that it takes stays in range.

`Run` is a computation of such steps that may also end with a cause of failure,
which is an outcome like any other. A run that stays in range is `Run.of` its
outcome; the lemmas on `Run.of` follow a run step by step.
-/

namespace Chiptune.Machine

/-- A number of a width. -/
def fit (width n : Nat) : Option Nat := if n < 2 ^ width then some n else none

def add (width a b : Nat) : Option Nat := fit width (a + b)

def mul (width a b : Nat) : Option Nat := fit width (a * b)

def sub (a b : Nat) : Option Nat := if b ≤ a then some (a - b) else none

/-- The count of a shift is below the width, and no bit is lost. -/
def shiftLeft (width a count : Nat) : Option Nat :=
  if count < width then fit width (a <<< count) else none

/-- A number that is stored as a byte. -/
def toByte (n : Nat) : Option UInt8 := if n < 256 then some (UInt8.ofNat n) else none

/-- A byte that is read as a signed one. -/
def toSigned (b : UInt8) : Option Int := if b < 128 then some b.toNat else none

def subSigned (a b : Int) : Option Int :=
  if -128 ≤ a - b ∧ a - b < 128 then some (a - b) else none

/-- A signed number that is stored as a byte. -/
def ofSigned (n : Int) : Option UInt8 :=
  if 0 ≤ n ∧ n < 256 then some (UInt8.ofNat n.toNat) else none

namespace Byte

def add (a b : UInt8) : Option UInt8 := toByte (a.toNat + b.toNat)

def mul (a b : UInt8) : Option UInt8 := toByte (a.toNat * b.toNat)

def sub (a b : UInt8) : Option UInt8 := if b ≤ a then some (a - b) else none

def shiftLeft (a : UInt8) (count : Nat) : Option UInt8 :=
  if count < 8 then toByte (a.toNat <<< count) else none

def shiftRight (a : UInt8) (count : Nat) : Option UInt8 :=
  if count < 8 then some (a >>> UInt8.ofNat count) else none

end Byte

theorem add_eq_some {width a b : Nat} (h : a + b < 2 ^ width) : add width a b = some (a + b) :=
  if_pos h

theorem mul_eq_some {width a b : Nat} (h : a * b < 2 ^ width) : mul width a b = some (a * b) :=
  if_pos h

theorem sub_eq_some {a b : Nat} (h : b ≤ a) : sub a b = some (a - b) := if_pos h

theorem toByte_eq_some {n : Nat} (h : n < 256) : toByte n = some (UInt8.ofNat n) := if_pos h

namespace Byte

theorem add_eq_some {a b : UInt8} (h : a.toNat + b.toNat < 256) : add a b = some (a + b) := by
  rw [add, toByte_eq_some h, UInt8.ofNat_add, UInt8.ofNat_toNat, UInt8.ofNat_toNat]

theorem mul_eq_some {a b : UInt8} (h : a.toNat * b.toNat < 256) : mul a b = some (a * b) := by
  rw [mul, toByte_eq_some h, UInt8.ofNat_mul, UInt8.ofNat_toNat, UInt8.ofNat_toNat]

theorem sub_eq_some {a b : UInt8} (h : b ≤ a) : sub a b = some (a - b) := if_pos h

theorem sub_eq_none {a b : UInt8} (h : a < b) : sub a b = none := if_neg (UInt8.not_le.2 h)

theorem shiftLeft_eq_some {a : UInt8} {count : Nat} (inside : count < 8)
    (h : a.toNat * 2 ^ count < 256) : shiftLeft a count = some (a <<< UInt8.ofNat count) := by
  have shifted : UInt8.ofNat (a.toNat * 2 ^ count) = a <<< UInt8.ofNat count := by
    have bits : (UInt8.ofNat count).toNat = count :=
      UInt8.toNat_ofNat_of_lt' (Nat.lt_trans inside (by decide))
    apply UInt8.toNat_inj.1
    rw [UInt8.toNat_shiftLeft, bits, Nat.mod_eq_of_lt inside, Nat.shiftLeft_eq]
    exact UInt8.toNat_ofNat'
  rw [shiftLeft, if_pos inside, Nat.shiftLeft_eq, toByte_eq_some h, shifted]

theorem toNat_low (b : UInt8) : (b &&& 0x0F).toNat = b.toNat % 16 := by
  rw [UInt8.toNat_and]
  exact Nat.and_two_pow_sub_one_eq_mod b.toNat 4

theorem toNat_high (b : UInt8) : (b >>> 4).toNat = b.toNat / 16 := by
  rw [UInt8.toNat_shiftRight]
  exact Nat.shiftRight_eq_div_pow b.toNat 4

end Byte

/-- A shifted number keeps its bits apart from those of a number below the shift. -/
theorem shiftLeft_eq_some {width a count : Nat} (inside : count < width)
    (h : a * 2 ^ count < 2 ^ width) : shiftLeft width a count = some (a * 2 ^ count) := by
  rw [shiftLeft, if_pos inside, Nat.shiftLeft_eq, fit, if_pos h]

theorem or_mul_two_pow {low high count : Nat} (h : low < 2 ^ count) :
    low ||| high * 2 ^ count = high * 2 ^ count + low := by
  rw [← Nat.shiftLeft_eq, Nat.or_comm, ← Nat.shiftLeft_add_eq_or_of_lt h]

section

variable {α : Type}

/-- The member of a list at an index. -/
def nth (items : List α) (k : Nat) : Option α := items[k]?

/-- The members of a list from one index to another. -/
def slice (items : List α) (start stop : Nat) : Option (List α) :=
  if start ≤ stop ∧ stop ≤ items.length then some ((items.drop start).take (stop - start))
  else none

/-- The list with another member at an index. -/
def store (items : List α) (k : Nat) (a : α) : Option (List α) :=
  if k < items.length then some (items.set k a) else none

theorem slice_eq_some {items : List α} {start stop : Nat} (order : start ≤ stop)
    (inside : stop ≤ items.length) :
    slice items start stop = some ((items.drop start).take (stop - start)) :=
  if_pos ⟨order, inside⟩

/-- The sum of the members of a list, added up one by one. -/
def total (width : Nat) (items : List Nat) : Option Nat := items.foldlM (add width) 0

theorem total_eq_some {width : Nat} {items : List Nat} (h : items.sum < 2 ^ width) :
    total width items = some items.sum := by
  have later (items : List Nat) (before : Nat) (h : before + items.sum < 2 ^ width) :
      items.foldlM (add width) before = some (before + items.sum) := by
    induction items generalizing before with
    | nil => rfl
    | cons n items ih =>
        rw [List.sum_cons, ← Nat.add_assoc] at h
        rw [List.foldlM_cons, add_eq_some (by omega), List.sum_cons, ← Nat.add_assoc]
        exact ih _ h
  rw [total, later items 0 (by omega), Nat.zero_add]

theorem sum_map_le {f : α → Nat} {bound : Nat} {items : List α}
    (each : ∀ a ∈ items, f a ≤ bound) : (items.map f).sum ≤ items.length * bound := by
  rw [← List.length_map f]
  exact List.sum_le_card_nsmul _ _ (List.forall_mem_map.2 each)

end

/-- A computation of the machine: it has no outcome if a step leaves its range. -/
abbrev Run (ε α : Type) := ExceptT ε Option α

namespace Run

variable {ε ε' α β γ : Type}

/-- The run that stays in range and has the given outcome. -/
def of (outcome : Except ε α) : Run ε α := ExceptT.mk (some outcome)

/-- A single step, which has no outcome if it leaves its range. -/
def step (x : Option α) : Run ε α := ExceptT.mk (x.map .ok)

/-- A run whose failures are reported in other terms. -/
def mapError (f : ε → ε') (r : Run ε α) : Run ε' α :=
  ExceptT.mk (r.run.map (Except.mapError f))

@[simp] theorem run_of (outcome : Except ε α) : (of outcome).run = some outcome := rfl

theorem of_ok (a : α) : of (.ok a : Except ε α) = pure a := rfl

theorem of_error (cause : ε) : of (.error cause : Except ε α) = throw cause := rfl

/-- A step that stays in range goes on with its value. -/
@[simp] theorem step_bind (a : α) (g : α → Run ε β) : (step (some a) >>= g) = g a := rfl

@[simp] theorem mapError_of (f : ε → ε') (outcome : Except ε α) :
    mapError f (of outcome) = of (outcome.mapError f) := rfl

/-- Steps in sequence stay in range if the first does, and the second does behind
every value that the first can have. -/
theorem of_bind {x : Except ε α} {f : α → Except ε β} {g : α → Run ε β}
    (next : ∀ a, x = .ok a → g a = of (f a)) : (of x >>= g) = of (x >>= f) := by
  cases x with
  | error cause => rfl
  | ok a => exact next a rfl

/-- The same for a step whose value carries more than is needed later. -/
theorem of_map_bind {x : Except ε α} {h : α → γ} {f : α → Except ε β} {g : γ → Run ε β}
    (next : ∀ a, x = .ok a → g (h a) = of (f a)) : (of (x.map h) >>= g) = of (x >>= f) := by
  cases x with
  | error cause => rfl
  | ok a => exact next a rfl

/-- A value computed from that of the last step is computed in a step of its own. -/
theorem map_bind {x : Except ε α} {f : α → Except ε β} (h : β → γ) :
    (x >>= f).map h = x >>= fun a => (f a).map h := by
  cases x <;> rfl

theorem of_bind_pure {x : Except ε α} {f : α → β} :
    (of x >>= fun a => (pure (f a) : Run ε β)) = of (x.map f) := by
  cases x <;> rfl

/-- A list of steps stays in range if each of them does. -/
theorem mapM_of {items : List α} {f : α → Except ε β} {g : α → Run ε β}
    (each : ∀ a ∈ items, g a = of (f a)) : items.mapM g = of (items.mapM f) := by
  induction items with
  | nil => rfl
  | cons a items ih =>
      rw [List.mapM_cons, List.mapM_cons, each a (.head _)]
      refine of_bind fun b _ => ?_
      rw [ih fun a member => each a (.tail _ member)]
      exact of_bind fun bs _ => rfl

end Run

end Chiptune.Machine

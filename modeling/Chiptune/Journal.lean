import Chiptune.Text.Quoted

/-!
# The journal of a conversion

A conversion tells what it does as it goes: what it found in the song, which
patterns it left out, which effects it had to drop. A journal is the list of
these events together with the outcome; when a conversion fails, the events up
to the failure remain. Journals compose in order (`bind`), and `traverse` keeps
the journal of a list up to its first failure.
-/

namespace Chiptune

open Text

/-- How much an event matters. -/
inductive Level where
  | debug
  | info
  | warn
deriving DecidableEq, Repr

def Level.name : Level → String
  | debug => "debug"
  | info => "info"
  | warn => "warn"

/-- Something worth telling. -/
inductive Event where
  | songName (name : String)
  | orderCount (count : Nat)
  | patternCount (count : Nat)
  | instrumentCount (count : Nat)
  | songLength (length : Nat)
  | orderSkipped (order : UInt8)
  | exportingPatterns
  | patternUnreferenced (index : Nat)
  | patternExported (index rows : Nat)
  | trailingCells
  | exportingStartup
  | customPanning
  | exportingInstrument (number : Nat) (name : String)
  | patternBytes (count : Nat)
  | tempoEffect (param : UInt8)
  | unsupportedEffect (command param : UInt8)
  | decompressed (path : String) (before after : Nat)
  | wrote (path : String)
  | done
deriving DecidableEq, Repr

namespace Event

def level : Event → Level
  | orderSkipped _ | patternExported _ _ | trailingCells | decompressed _ _ _ => .debug
  | tempoEffect _ | unsupportedEffect _ _ => .warn
  | _ => .info

def message : Event → String
  | songName name => s!"Song name: '{name}'"
  | orderCount count => s!"Num. orders: {count}"
  | patternCount count => s!"Num. patterns: {count}"
  | instrumentCount count => s!"Num. instruments: {count}"
  | songLength length => s!"Song length: {length}"
  | orderSkipped order => s!"Skipping order entry {order}"
  | exportingPatterns => "Exporting patterns..."
  | patternUnreferenced index => s!"Pattern {index} is not referenced, skipping"
  | patternExported index rows => s!"Pattern {index}: {rows} rows"
  | trailingCells => "Dropping cells after the last row marker"
  | exportingStartup => "Exporting initial state..."
  | customPanning => "Song contains custom panning values"
  | exportingInstrument number name => s!"Exporting instrument {number} '{name}' to channel 3"
  | patternBytes count => s!"Pattern data: {count} bytes"
  | tempoEffect param => "Unsupported BPM speed effect: F" ++ Hexadecimal.byte param
  | unsupportedEffect command param =>
    "Unsupported effect: " ++ Hexadecimal.numeral command.toNat ++ Hexadecimal.byte param
  | decompressed path before after => s!"Decompressed {path} ({before} -> {after} bytes)"
  | wrote path => s!"Wrote {path}"
  | done => "Done!"

end Event

/-- The events of a conversion and its outcome. -/
structure Journal (ε α : Type) where
  events : List Event
  outcome : Except ε α

namespace Journal

variable {ε ε' α β : Type}

def pure (a : α) : Journal ε α := ⟨[], .ok a⟩

/-- Go on with the value, if there is one. -/
def bind (j : Journal ε α) (f : α → Journal ε β) : Journal ε β :=
  match j.outcome with
  | .error cause => ⟨j.events, .error cause⟩
  | .ok a => ⟨j.events ++ (f a).events, (f a).outcome⟩

instance : Monad (Journal ε) where
  pure := Journal.pure
  bind := Journal.bind

def note (event : Event) : Journal ε Unit := ⟨[event], .ok ()⟩

def noteAll (events : List Event) : Journal ε Unit := ⟨events, .ok ()⟩

def noteIf (condition : Bool) (event : Event) : Journal ε Unit :=
  ⟨if condition then [event] else [], .ok ()⟩

def ofExcept (outcome : Except ε α) : Journal ε α := ⟨[], outcome⟩

def mapError (f : ε → ε') (j : Journal ε α) : Journal ε' α :=
  ⟨j.events, j.outcome.mapError f⟩

def traverseOnto (f : α → Journal ε β) (events : List Event) (results : List β) :
    List α → Journal ε (List β)
  | [] => ⟨events.reverse, .ok results.reverse⟩
  | a :: rest =>
    let j := f a
    match j.outcome with
    | .error cause => ⟨(j.events.reverse ++ events).reverse, .error cause⟩
    | .ok b => traverseOnto f (j.events.reverse ++ events) (b :: results) rest

/-- Treat the members of a list in turn, up to the first failure. -/
def traverse (f : α → Journal ε β) (items : List α) : Journal ε (List β) :=
  traverseOnto f [] [] items

@[simp] theorem pure_outcome (a : α) : (Pure.pure a : Journal ε α).outcome = .ok a := rfl

@[simp] theorem pure_events (a : α) : (Pure.pure a : Journal ε α).events = [] := rfl

theorem bind_of_ok {j : Journal ε α} {a : α} (h : j.outcome = .ok a) (f : α → Journal ε β) :
    j >>= f = ⟨j.events ++ (f a).events, (f a).outcome⟩ := by
  show Journal.bind j f = _
  simp [Journal.bind, h]

theorem bind_of_error {j : Journal ε α} {cause : ε} (h : j.outcome = .error cause)
    (f : α → Journal ε β) : j >>= f = ⟨j.events, .error cause⟩ := by
  show Journal.bind j f = _
  simp [Journal.bind, h]

theorem bind_outcome (j : Journal ε α) (f : α → Journal ε β) :
    (j >>= f).outcome = j.outcome >>= fun a => (f a).outcome := by
  cases h : j.outcome with
  | error cause => rw [bind_of_error h]; rfl
  | ok a => rw [bind_of_ok h]; rfl

theorem traverseOnto_eq (f : α → Journal ε β) (items : List α) (events : List Event)
    (results : List β) :
    traverseOnto f events results items =
      ⟨events.reverse ++ (traverse f items).events,
        (traverse f items).outcome.map (results.reverse ++ ·)⟩ := by
  induction items generalizing events results with
  | nil => simp [traverse, traverseOnto, Except.map]
  | cons a rest ih =>
    simp only [traverse, traverseOnto]
    cases h : (f a).outcome with
    | error cause => simp [Except.map]
    | ok b =>
      simp only []
      rw [ih ((f a).events.reverse ++ events), ih ((f a).events.reverse ++ [])]
      cases (traverse f rest).outcome <;> simp [Except.map]

/-- The journal of a list is that of its head followed by that of its tail. -/
theorem traverse_cons (f : α → Journal ε β) (a : α) (rest : List α) :
    traverse f (a :: rest) =
      f a >>= fun b => traverse f rest >>= fun results => Pure.pure (b :: results) := by
  cases h : (f a).outcome with
  | error cause =>
    rw [bind_of_error h]
    simp [traverse, traverseOnto, h]
  | ok b =>
    have head : traverse f (a :: rest) = traverseOnto f ((f a).events.reverse ++ []) [b] rest := by
      simp [traverse, traverseOnto, h]
    rw [head, bind_of_ok h, traverseOnto_eq]
    cases ht : (traverse f rest).outcome with
    | error cause => rw [bind_of_error ht]; simp [Except.map]
    | ok results => rw [bind_of_ok ht]; simp [Except.map]

end Journal

end Chiptune

/-!
# Module formats and their effects

Two formats are understood. Each also fixes what its effects mean and the tick
rate its songs were written for. An effect is a command with a parameter.
Scream Tracker shows its commands as letters, 1 being A; Protracker shows the
number itself.
-/

namespace Chiptune

/-- The format of a module. -/
inductive Format where
  | screamTracker
  | protracker
deriving DecidableEq, Repr

namespace Format

/-- The name of a format, also its file name extension. -/
def name : Format → String
  | screamTracker => "s3m"
  | protracker => "mod"

/-- Speeds count in fiftieths of a second unless an option says otherwise. -/
def countsFiftieths : Format → Bool
  | screamTracker => false
  | protracker => true

end Format

/-- An effect as a tracker stores it. -/
structure Effect where
  command : UInt8
  param : UInt8
deriving DecidableEq, Repr

namespace Effect

def ofLetter (letter : Char) (param : UInt8) : Effect :=
  ⟨UInt8.ofNat letter.toNat - 65 + 1, param⟩

/-- The letter of an effect; commands without one show as a question mark. -/
def letter (e : Effect) : Char :=
  if 1 ≤ e.command ∧ e.command ≤ 26 then Char.ofNat (64 + e.command.toNat) else '?'

def high (e : Effect) : UInt8 := e.param >>> 4

def low (e : Effect) : UInt8 := e.param &&& 0x0F

end Effect

end Chiptune

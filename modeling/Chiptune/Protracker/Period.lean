import Chiptune.Fault

/-!
# Periods

Protracker stores a note as the period of its oscillator. The player's notes
have the periods of `periods`, from the lowest note to the highest; a period
between two of them is played as the nearer one, and half-way as the lower
note. Period zero is no note.
-/

namespace Chiptune.Protracker

def periods : List Nat := [
  1712, 1616, 1524, 1440, 1356, 1280, 1208, 1140, 1076, 1016, 960, 907,
  856, 808, 762, 720, 678, 640, 604, 570, 538, 508, 480, 453,
  428, 404, 381, 360, 339, 320, 302, 285, 269, 254, 240, 226,
  214, 202, 190, 180, 170, 160, 151, 143, 135, 127, 120, 113,
  107, 101, 95, 90, 85, 80, 75, 71, 67, 63, 60, 56,
  53, 50, 47, 45, 42, 40, 37, 35, 33, 31, 30, 28]

def longestPeriod : Nat := 1712

def shortestPeriod : Nat := 28

def distance (p q : Nat) : Nat := (p - q) + (q - p)

/-- The first index, counted from `index`, of a table entry nearest to a period,
provided that one is nearer than `best` at `found`. -/
def nearestFrom (period : Nat) (found best : Nat) (index : Nat) : List Nat → Nat
  | [] => found
  | entry :: entries =>
    if distance period entry < best then
      nearestFrom period index (distance period entry) (index + 1) entries
    else nearestFrom period found best (index + 1) entries

/-- The note of the nearest period. -/
def nearest (period : Nat) : Nat := nearestFrom period 0 0xFFFF 0 periods

def noteOfPeriod (period : Nat) : Except Fault (Option UInt8) :=
  if period = 0 then .ok none
  else if period < shortestPeriod then .error .noteTooHigh
  else if longestPeriod < period then .error .noteTooLow
  else .ok (some (UInt8.ofNat (nearest period)))

end Chiptune.Protracker

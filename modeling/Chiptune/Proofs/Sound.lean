import Chiptune.Proofs.Image
import Chiptune.Proofs.Outcome
import Chiptune.Proofs.Protracker.Period
import Chiptune.Sound
import Chiptune.Voice

/-!
# Ranges of the player's values

The player indexes tables with notes, writes panning masks and levels straight
to registers, and counts a speed down to zero. This module bounds the values
that the conversions give, whatever they are given.
-/

namespace Chiptune

open Bytecode

namespace Sound

/-- The player has a note of this number. -/
def IsNote (note : UInt8) : Prop := note ≤ 71

theorem isNote_iff {note : UInt8} : IsNote note ↔ note.toNat < noteCount := by
  rw [IsNote, UInt8.le_iff_toNat_le]
  exact Nat.lt_succ_iff.symm

theorem noteIndex_isNote {note index : UInt8} (sounding : note ≠ noteCut)
    (h : noteIndex note = .ok index) : IsNote index := by
  rw [noteIndex, if_neg sounding] at h
  split at h
  · cases h
  split at h
  · cases h
  simp only at h
  split at h
  · cases h
  split at h
  · cases h
  · rename_i below
    cases h
    exact isNote_iff.2 (Nat.lt_of_not_le below)

/-- A channel's mask has one bit or both bits of that channel. -/
theorem panMask_mem (c : Channel) (pan : UInt8) :
    panMask c pan ∈ [(0x10 : UInt8), 0x11, 0x01].map (· <<< UInt8.ofNat (c.number - 1)) := by
  unfold panMask
  split
  · cases c <;> decide
  split
  · cases c <;> decide
  · cases c <;> decide

theorem playerSpeed_ne_zero {speed : UInt8} (nonzero : speed ≠ 0) (convert : Bool) :
    playerSpeed speed convert ≠ 0 := by
  have table : ∀ speed : UInt8, speed ≠ 0 → playerSpeed speed true ≠ 0 :=
    forall_byte (by decide +kernel)
  cases convert with
  | false => exact nonzero
  | true => exact table speed nonzero

end Sound

namespace Protracker

theorem noteOfPeriod_isNote {period : Nat} {note : UInt8}
    (h : noteOfPeriod period = .ok (some note)) : Sound.IsNote note := by
  unfold noteOfPeriod at h
  split at h
  · cases h
  split at h
  · cases h
  split at h
  · cases h
  · cases h
    rw [Sound.isNote_iff, toNat_nearest]
    exact nearest_lt period

end Protracker

namespace Channel

/-- The loudest level of a channel, in the numbering of its register. -/
def highestLevel : Channel → UInt8
  | wave => 4
  | _ => 15

/-- The last instrument of a channel. -/
def lastInstrument : Channel → UInt8
  | wave => 7
  | _ => 3

theorem quantize_le (c : Channel) (volume : UInt8) : c.quantize volume ≤ c.highestLevel := by
  revert volume
  apply forall_byte
  cases c <;> decide +kernel

theorem instrumentMask_and_le {c : Channel} (pitched : c ≠ .noise) (instrument : UInt8) :
    instrument &&& c.instrumentMask ≤ c.lastInstrument := by
  revert instrument
  apply forall_byte
  revert pitched
  cases c <;> decide +kernel

end Channel

end Chiptune

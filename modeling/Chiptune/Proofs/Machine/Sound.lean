import Chiptune.Dialect
import Chiptune.Proofs.Machine.Arithmetic
import Chiptune.Proofs.RowEncoding
import Chiptune.Proofs.Sound
import Chiptune.Protracker.Cell

/-!
# Conversions of single values, step by step

Notes, volumes, pan positions, speeds and effects as a machine with bytes
computes them. Every conversion stays in range for every value that it can be
given, and has the value that it is meant to have. Most of them are functions of
one byte and a channel, so a table settles them.
-/

namespace Chiptune.Machine

open Bytecode Run

namespace Sound

open Chiptune.Sound

/-- A note below the lowest one is refused, which the subtraction itself finds out. -/
def noteIndex (note : UInt8) : Run Fault UInt8 :=
  if note = noteCut then pure note
  else if 0x7F < note then throw .noteTooHigh
  else
    match Byte.sub note lowestNote with
    | none => throw .noteTooLow
    | some relative => do
      let semitone := relative &&& 0x0F
      let octave ← step (Byte.shiftRight relative 4)
      if 12 ≤ semitone then throw (.invalidNote note)
      else do
        let first ← step (Byte.mul octave 12)
        let index ← step (Byte.add semitone first)
        if noteCount ≤ index.toNat then throw .noteTooHigh else pure index

def level (volume : UInt8) : Option UInt8 :=
  (Byte.shiftRight volume 2).map fun steps => min steps 15

def quantize (c : Channel) (volume : UInt8) : Option UInt8 :=
  (level volume).map fun l =>
    match c with
    | .wave =>
      if l ≤ 3 then 0
      else if l ≤ 6 then 3
      else if l ≤ 9 then 2
      else if l ≤ 12 then 4
      else 1
    | _ => l

/-- The bit with a number, if it is set. -/
def bit (set : Bool) (number : Option UInt8) : Option UInt8 :=
  if set then number.bind fun count => Byte.shiftLeft 1 count.toNat else some 0

/-- The bits of a channel, whose number counts from one. -/
def panMask (pan number : UInt8) : Option UInt8 := do
  let left ← bit (pan ≤ 11) (Byte.add 3 number)
  let right ← bit (3 < pan) (Byte.sub number 1)
  pure (left ||| right)

def ofDecimalDigits (b : UInt8) : Option UInt8 := do
  let high ← Byte.shiftRight b 4
  let tens ← Byte.mul high 10
  Byte.add tens (b &&& 0x0F)

/-- Speeds are scaled in 16 bits. -/
def playerSpeed (speed : UInt8) (convert : Bool) : Option UInt8 :=
  if convert then do
    let sixtieths ← mul 16 speed.toNat 60
    toByte (min (sixtieths / 50) 255)
  else pure speed

theorem noteIndex_eq (note : UInt8) : noteIndex note = of (Chiptune.Sound.noteIndex note) := by
  unfold noteIndex Chiptune.Sound.noteIndex
  by_cases cut : note = noteCut
  · rw [if_pos cut, if_pos cut, cut]
    rfl
  by_cases loud : 0x7F < note
  · rw [if_neg cut, if_neg cut, if_pos loud, if_pos loud]
    rfl
  rw [if_neg cut, if_neg cut, if_neg loud, if_neg loud]
  by_cases low : note < lowestNote
  · rw [if_pos low, Byte.sub_eq_none low]
    rfl
  rw [if_neg low, Byte.sub_eq_some (UInt8.not_lt.1 low)]
  -- there are six octaves at most, so the index of the last semitone fits
  have bound : (note - lowestNote).toNat ≤ 95 := by
    have below : note.toNat ≤ 127 := UInt8.le_iff_toNat_le.1 (UInt8.not_lt.1 loud)
    rw [UInt8.toNat_sub_of_le _ _ (UInt8.not_lt.1 low)]
    show note.toNat - 32 ≤ 95
    omega
  generalize note - lowestNote = relative at bound
  have octave : Byte.shiftRight relative 4 = some (relative >>> 4) := rfl
  have high := Byte.toNat_high relative
  have first : Byte.mul (relative >>> 4) 12 = some ((relative >>> 4) * 12) := by
    refine Byte.mul_eq_some ?_
    rw [high]
    show relative.toNat / 16 * 12 < 256
    omega
  have index : Byte.add (relative &&& 0x0F) ((relative >>> 4) * 12) =
      some ((relative &&& (0x0F : UInt8)) + (relative >>> 4) * 12) := by
    refine Byte.add_eq_some ?_
    rw [UInt8.toNat_mul, high, Byte.toNat_low]
    have product : relative.toNat / 16 * 12 % 256 = relative.toNat / 16 * 12 :=
      Nat.mod_eq_of_lt (by omega)
    show relative.toNat % 16 + relative.toNat / 16 * 12 % 256 < 256
    omega
  simp only [octave, first, index, step_bind]
  split
  · rfl
  · split <;> rfl

theorem quantize_eq (c : Channel) (volume : UInt8) :
    quantize c volume = some (c.quantize volume) := by
  cases c <;> rfl

theorem bit_left (c : Channel) (set : Bool) :
    bit set (Byte.add 3 (UInt8.ofNat c.number)) = some (if set then leftBit c else 0) := by
  cases c <;> cases set <;> rfl

theorem bit_right (c : Channel) (set : Bool) :
    bit set (Byte.sub (UInt8.ofNat c.number) 1) = some (if set then rightBit c else 0) := by
  cases c <;> cases set <;> rfl

theorem panMask_eq (c : Channel) (pan : UInt8) :
    panMask pan (UInt8.ofNat c.number) = some (Chiptune.Sound.panMask c pan) := by
  rw [panMask, bit_left, bit_right]
  show some ((if decide (pan ≤ 11) then leftBit c else 0) |||
    (if decide (3 < pan) then rightBit c else 0)) = _
  rw [Chiptune.Sound.panMask]
  by_cases left : pan ≤ 3
  · have inside : pan ≤ 11 := UInt8.le_trans left (by decide)
    simp [left, inside, UInt8.not_lt.2 left]
  · by_cases inside : pan ≤ 11 <;> simp [left, inside, UInt8.not_le.1 left]

/-- No channel has the number zero, which has no bit on the right. -/
example : panMask 12 0 = none := rfl

theorem ofDecimalDigits_eq (b : UInt8) :
    ofDecimalDigits b = some (Chiptune.Sound.ofDecimalDigits b) := by
  have small := b.toNat_lt
  have digit : Byte.shiftRight b 4 = some (b >>> 4) := rfl
  have high := Byte.toNat_high b
  have tens : Byte.mul (b >>> 4) 10 = some ((b >>> 4) * 10) := by
    refine Byte.mul_eq_some ?_
    rw [high]
    show b.toNat / 16 * 10 < 256
    omega
  have sum : Byte.add ((b >>> 4) * 10) (b &&& 0x0F) =
      some ((b >>> 4) * 10 + (b &&& (0x0F : UInt8))) := by
    refine Byte.add_eq_some ?_
    rw [UInt8.toNat_mul, high, Byte.toNat_low]
    have product : b.toNat / 16 * 10 % 256 = b.toNat / 16 * 10 := Nat.mod_eq_of_lt (by omega)
    show b.toNat / 16 * 10 % 256 + b.toNat % 16 < 256
    omega
  simp only [ofDecimalDigits, digit, tens, sum, Option.bind_eq_bind, Option.bind_some]
  rfl

theorem playerSpeed_eq (speed : UInt8) (convert : Bool) :
    playerSpeed speed convert = some (Chiptune.Sound.playerSpeed speed convert) := by
  have scaled : mul 16 speed.toNat 60 = some (speed.toNat * 60) := by
    have small := speed.toNat_lt
    exact mul_eq_some (by omega)
  have ticks : toByte (min (speed.toNat * 60 / 50) 255) =
      some (UInt8.ofNat (min (speed.toNat * 60 / 50) 255)) := toByte_eq_some (by omega)
  cases convert with
  | false => rfl
  | true =>
      show (mul 16 speed.toNat 60).bind _ = _
      rw [scaled]
      exact ticks

end Sound

namespace Protracker

open Chiptune.Protracker

/-- The bounds of the table are its first and its last entry. -/
def noteOfPeriod (period : Nat) : Run Fault (Option UInt8) :=
  if period = 0 then pure none
  else do
    let last ← step (sub periods.length 1)
    let shortest ← step (nth periods last)
    if period < shortest then throw .noteTooHigh
    else do
      let longest ← step (nth periods 0)
      if longest < period then throw .noteTooLow
      else do
        let note ← step (toByte (nearest period))
        pure (some note)

theorem noteOfPeriod_eq (period : Nat) :
    noteOfPeriod period = of (Chiptune.Protracker.noteOfPeriod period) := by
  have last : sub periods.length 1 = some 71 := rfl
  have shortest : nth periods 71 = some shortestPeriod := rfl
  have longest : nth periods 0 = some longestPeriod := rfl
  have small : nearest period < 256 := Nat.lt_trans (nearest_lt period) (by decide)
  unfold noteOfPeriod Chiptune.Protracker.noteOfPeriod
  simp only [last, shortest, longest, toByte_eq_some small, step_bind]
  split
  · rfl
  · split
    · rfl
    · split <;> rfl

end Protracker

namespace Effect

/-- Letters are counted from A. -/
def letter (e : Chiptune.Effect) : Option Char :=
  if 1 ≤ e.command ∧ e.command ≤ 26 then do
    let next ← Byte.add 65 e.command
    let code ← Byte.sub next 1
    pure (Char.ofNat code.toNat)
  else pure '?'

theorem letter_eq (e : Chiptune.Effect) : letter e = some e.letter := by
  unfold letter Chiptune.Effect.letter
  split
  · rename_i range
    have last : e.command.toNat ≤ 26 := UInt8.le_iff_toNat_le.1 range.2
    have next : (65 + e.command).toNat = 65 + e.command.toNat := by
      rw [UInt8.toNat_add]
      exact Nat.mod_eq_of_lt (by show 65 + e.command.toNat < 256; omega)
    have positive : (1 : UInt8) ≤ 65 + e.command := by
      rw [UInt8.le_iff_toNat_le, next]
      show 1 ≤ 65 + e.command.toNat
      omega
    have code : (65 + e.command - 1).toNat = 64 + e.command.toNat := by
      rw [UInt8.toNat_sub_of_le _ _ positive, next]
      show 65 + e.command.toNat - 1 = 64 + e.command.toNat
      omega
    have sum : Byte.add 65 e.command = some (65 + e.command) :=
      Byte.add_eq_some (by show 65 + e.command.toNat < 256; omega)
    simp only [sum, Byte.sub_eq_some positive, Option.bind_eq_bind, Option.bind_some, code]
    rfl
  · rfl

end Effect

namespace Dialect

/-- The delay of a volume slide is a difference of signed bytes, and is judged
after it has been taken. -/
def slideBy (direction amount : UInt8) : Run Fault (Option Action) := do
  let steps ← step (toSigned amount)
  let delay ← step (subSigned 8 steps)
  if delay ≤ 0 then throw .volumeSlideTooSteep
  else do
    let envelope ← step (ofSigned delay)
    pure (some ⟨.volumeSlide, direction ||| envelope⟩)

def slideAction (number param : UInt8) : Run Fault (Option Action) :=
  if number = 3 then throw .volumeSlideOnWave
  else if param = 0 then pure none
  else do
    let upper ← step (Byte.shiftRight param 4)
    let lower := param &&& 0x0F
    if upper = 0x0F ∨ lower = 0x0F then throw .fineVolumeSlide
    else if lower = 0 then slideBy slideUp upper
    else if upper = 0 then slideBy 0 lower
    else throw (.invalidVolumeSlide param)

/-- The amount of a slide is a nibble, so the difference is a signed byte. -/
theorem slideBy_eq (direction : UInt8) {amount : UInt8} (nibble : amount.toNat < 16) :
    slideBy direction amount = of (if 8 ≤ amount then .error .volumeSlideTooSteep
      else .ok (some ⟨.volumeSlide, direction ||| (8 - amount)⟩)) := by
  have signed : toSigned amount = some (amount.toNat : Int) :=
    if_pos (UInt8.lt_iff_toNat_lt.2 (by show amount.toNat < 128; omega))
  have delay : subSigned 8 amount.toNat = some (8 - amount.toNat : Int) :=
    if_pos (by omega)
  rw [slideBy, signed, step_bind, delay, step_bind]
  by_cases steep : 8 ≤ amount
  · have least : 8 ≤ amount.toNat := UInt8.le_iff_toNat_le.1 steep
    have none_left : (8 - amount.toNat : Int) ≤ 0 := by omega
    rw [if_pos none_left, if_pos steep]
    rfl
  · have most : amount.toNat < 8 := UInt8.lt_iff_toNat_lt.1 (UInt8.not_le.1 steep)
    have some_left : ¬ (8 - amount.toNat : Int) ≤ 0 := by omega
    have envelope : ofSigned (8 - amount.toNat : Int) = some (8 - amount) := by
      have stored : ofSigned (8 - amount.toNat : Int) =
          some (UInt8.ofNat (8 - amount.toNat : Int).toNat) := if_pos (by omega)
      have left : (8 - amount.toNat : Int).toNat = 8 - amount.toNat := by omega
      rw [stored, left, UInt8.ofNat_sub (Nat.le_of_lt most), UInt8.ofNat_toNat]
      rfl
    rw [if_neg some_left, if_neg steep, envelope]
    rfl

theorem slideAction_eq (c : Channel) (param : UInt8) :
    slideAction (UInt8.ofNat c.number) param = of (Chiptune.slideAction c param) := by
  have wave : UInt8.ofNat c.number = 3 ↔ c = .wave := by cases c <;> decide
  have upper : Byte.shiftRight param 4 = some (param >>> 4) := rfl
  have high : (param >>> 4).toNat < 16 := by
    have := param.toNat_lt
    rw [Byte.toNat_high]
    omega
  have low : (param &&& 0x0F).toNat < 16 := by
    rw [Byte.toNat_low]
    omega
  unfold slideAction Chiptune.slideAction
  simp only [wave, upper, step_bind, slideBy_eq _ high, slideBy_eq _ low, UInt8.zero_or]
  split
  · rfl
  split
  · rfl
  split
  · rfl
  split
  · rfl
  split <;> rfl

def screamTrackerAction (convert : Bool) (number : UInt8) (e : Chiptune.Effect) :
    Run Fault (Option Action) := do
  let letter ← step (Effect.letter e)
  match letter with
  | 'A' =>
    if e.param = 0 then throw .zeroSpeed
    else do
      let speed ← step (Sound.playerSpeed e.param convert)
      pure (some ⟨.speed, speed⟩)
  | 'B' => pure (some ⟨.patternJump, e.param⟩)
  | 'C' => do
    let row ← step (Sound.ofDecimalDigits e.param)
    pure (some ⟨.breakSetStep, row⟩)
  | 'D' => slideAction number e.param
  | 'H' => pure (some ⟨.vibrato, e.param⟩)
  | 'J' => pure (some ⟨.arpeggio, e.param⟩)
  | 'S' => do
    let low := e.param &&& 0x0F
    let high ← step (Byte.shiftRight e.param 4)
    if high = 0x8 then do
      let mask ← step (Sound.panMask low number)
      pure (some ⟨.pan, mask⟩)
    else if high = 0xC then pure (some ⟨.noteCut, low⟩)
    else if high = 0xF then pure (some ⟨.event, low⟩)
    else throw (.unsupportedEffect letter e.param)
  | _ => throw (.unsupportedEffect letter e.param)

theorem screamTrackerAction_eq (convert : Bool) (c : Channel) (e : Chiptune.Effect) :
    screamTrackerAction convert (UInt8.ofNat c.number) e =
      of (Chiptune.Dialect.screamTrackerAction ⟨.screamTracker, convert⟩ c e) := by
  have high : Byte.shiftRight e.param 4 = some e.high := rfl
  unfold screamTrackerAction Chiptune.Dialect.screamTrackerAction
  simp only [Effect.letter_eq, Sound.playerSpeed_eq, Sound.ofDecimalDigits_eq, Sound.panMask_eq,
    slideAction_eq, high, step_bind]
  generalize e.letter = letter
  split
  · split <;> rfl
  · rfl
  · rfl
  · rfl
  · rfl
  · rfl
  · split
    · rfl
    split
    · rfl
    split <;> rfl
  · simp_all [of_error]

def protrackerAction (convert : Bool) (number : UInt8) (e : Chiptune.Effect) :
    Run Fault (Option Action) :=
  match e.command.toNat with
  | 0x0 => pure (some ⟨.arpeggio, e.param⟩)
  | 0xB => pure (some ⟨.patternJump, e.param⟩)
  | 0xD => do
    let row ← step (Sound.ofDecimalDigits e.param)
    pure (some ⟨.breakSetStep, row⟩)
  | 0xE => do
    let high ← step (Byte.shiftRight e.param 4)
    if high = 0x8 then do
      let mask ← step (Sound.panMask (e.param &&& 0x0F) number)
      pure (some ⟨.pan, mask⟩)
    else if high = 0xC then pure (some ⟨.noteCut, e.param &&& 0x0F⟩)
    else pure none
  | 0xF =>
    if e.param = 0 then throw .zeroSpeed
    else if Chiptune.Dialect.largestSpeed < e.param then pure none
    else do
      let speed ← step (Sound.playerSpeed e.param convert)
      pure (some ⟨.speed, speed⟩)
  | _ => pure none

theorem protrackerAction_eq (convert : Bool) (c : Channel) (e : Chiptune.Effect) :
    protrackerAction convert (UInt8.ofNat c.number) e =
      of ((Chiptune.Dialect.protrackerAction ⟨.protracker, convert⟩ c e).map Except.toOption) := by
  have high : Byte.shiftRight e.param 4 = some e.high := rfl
  unfold protrackerAction Chiptune.Dialect.protrackerAction
  simp only [Sound.playerSpeed_eq, Sound.ofDecimalDigits_eq, Sound.panMask_eq, high, step_bind]
  generalize e.command.toNat = command
  split
  · rfl
  · rfl
  · rfl
  · split
    · rfl
    split <;> rfl
  · split
    · rfl
    split <;> rfl
  · simp_all [Except.map, Except.toOption, of_ok]

/-- The effect of a channel, whose number counts from one. -/
def action (d : Chiptune.Dialect) (number : UInt8) (e : Chiptune.Effect) :
    Run Fault (Option Action) :=
  match d.format with
  | .screamTracker => screamTrackerAction d.convertSpeed number e
  | .protracker => protrackerAction d.convertSpeed number e

theorem action_eq (d : Chiptune.Dialect) (c : Channel) (e : Chiptune.Effect) :
    action d (UInt8.ofNat c.number) e = of (d.action c e).outcome := by
  obtain ⟨format, convert⟩ := d
  cases format with
  | screamTracker => exact screamTrackerAction_eq convert c e
  | protracker =>
      rw [Dialect.outcome_protracker]
      exact protrackerAction_eq convert c e

end Dialect

end Chiptune.Machine

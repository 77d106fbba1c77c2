import Chiptune.Bytecode.Opcode
import Chiptune.Channel
import Chiptune.Fault
import Chiptune.Format
import Chiptune.Journal
import Chiptune.Sound

/-!
# Dialects of effects

A dialect says what the effects of a module mean to the player: each becomes an
effect of the player, or nothing. Scream Tracker songs are written for the
player, so an effect that it does not have is a fault. Protracker songs are
older than the player, so such an effect is dropped with a warning. Both refuse
a speed of zero.
-/

namespace Chiptune

open Bytecode

/-- How effects are understood: by the rules of a format, with or without
changing the tick rate of speeds. -/
structure Dialect where
  format : Format
  convertSpeed : Bool
deriving DecidableEq, Repr

/-- The envelope that a volume slide asks for. Only a slide by a fixed delay
exists: the nibble that is not zero counts towards the delay, and the other one
gives the direction. A slide without amount continues the previous one, which
the envelope does by itself. -/
def slideAction (c : Channel) (param : UInt8) : Except Fault (Option Action) :=
  let up := param >>> 4
  let down := param &&& 0x0F
  if c = .wave then .error .volumeSlideOnWave
  else if param = 0 then .ok none
  else if up = 0x0F ∨ down = 0x0F then .error .fineVolumeSlide
  else if down = 0 then
    if 8 ≤ up then .error .volumeSlideTooSteep
    else .ok (some ⟨.volumeSlide, slideUp ||| (8 - up)⟩)
  else if up = 0 then
    if 8 ≤ down then .error .volumeSlideTooSteep
    else .ok (some ⟨.volumeSlide, 8 - down⟩)
  else .error (.invalidVolumeSlide param)

namespace Dialect

def screamTrackerAction (d : Dialect) (c : Channel) (e : Effect) : Except Fault (Option Action) :=
  let unsupported := Except.error (.unsupportedEffect e.letter e.param)
  match e.letter with
  | 'A' =>
    if e.param = 0 then .error .zeroSpeed
    else .ok (some ⟨.speed, Sound.playerSpeed e.param d.convertSpeed⟩)
  | 'B' => .ok (some ⟨.patternJump, e.param⟩)
  | 'C' => .ok (some ⟨.breakSetStep, Sound.ofDecimalDigits e.param⟩)
  | 'D' => slideAction c e.param
  | 'H' => .ok (some ⟨.vibrato, e.param⟩)
  | 'J' => .ok (some ⟨.arpeggio, e.param⟩)
  | 'S' =>
    if e.high = 0x8 then .ok (some ⟨.pan, Sound.panMask c e.low⟩)
    else if e.high = 0xC then .ok (some ⟨.noteCut, e.low⟩)
    else if e.high = 0xF then .ok (some ⟨.event, e.low⟩)
    else unsupported
  | _ => unsupported

/-- The largest parameter of a Protracker speed; larger ones set a tempo. -/
def largestSpeed : UInt8 := 0x1F

/-- What an effect of a Protracker song means: a fault, an effect of the player,
or the warning with which it is dropped. -/
def protrackerAction (d : Dialect) (c : Channel) (e : Effect) :
    Except Fault (Except Event Action) :=
  let dropped := Except.ok (.error (.unsupportedEffect e.command e.param))
  match e.command.toNat with
  | 0x0 => .ok (.ok ⟨.arpeggio, e.param⟩)
  | 0xB => .ok (.ok ⟨.patternJump, e.param⟩)
  | 0xD => .ok (.ok ⟨.breakSetStep, Sound.ofDecimalDigits e.param⟩)
  | 0xE =>
    if e.high = 0x8 then .ok (.ok ⟨.pan, Sound.panMask c e.low⟩)
    else if e.high = 0xC then .ok (.ok ⟨.noteCut, e.low⟩)
    else dropped
  | 0xF =>
    if e.param = 0 then .error .zeroSpeed
    else if largestSpeed < e.param then .ok (.error (.tempoEffect e.param))
    else .ok (.ok ⟨.speed, Sound.playerSpeed e.param d.convertSpeed⟩)
  | _ => dropped

/-- What an effect means on a channel; `none` means that it leaves no trace. -/
def action (d : Dialect) (c : Channel) (e : Effect) : Journal Fault (Option Action) :=
  match d.format with
  | .screamTracker => .ofExcept (d.screamTrackerAction c e)
  | .protracker =>
    match d.protrackerAction c e with
    | .error fault => .ofExcept (.error fault)
    | .ok (.ok action) => pure (some action)
    | .ok (.error warning) => ⟨[warning], .ok none⟩

end Dialect

end Chiptune

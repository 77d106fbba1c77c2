import Chiptune.Bytecode.View
import Chiptune.Dialect
import Chiptune.Failure
import Chiptune.Sound

/-!
# Voices

A voice is what one channel is asked to do in one row, in the tracker's terms.
The channels share one command layout and differ in what leads the command, how
wide the instrument is, and how the volume is quantized. `Voice.encode` turns a
voice into the command of its channel.

The four voices of a row become four commands back to back. The first voice that
has no command decides the outcome, and its fault is reported with its place.
-/

namespace Chiptune

open Bytecode

/-- What leads the commands of a channel. -/
inductive Lead where
  /-- A note; the instrument shares a byte with the effect. -/
  | note
  /-- A kit, which chooses the noise and takes the place of note and instrument. -/
  | kit
deriving DecidableEq, Repr

namespace Channel

def lead : Channel → Lead
  | noise => .kit
  | _ => .note

theorem lead_of_ne_noise {c : Channel} (pitched : c ≠ noise) : c.lead = .note := by
  cases c with
  | noise => exact absurd rfl pitched
  | pulse1 | pulse2 | wave => rfl

def instrumentMask : Channel → UInt8
  | pulse1 | pulse2 => 0x03
  | wave => 0x07
  | noise => 0x0F

def quantize : Channel → UInt8 → UInt8
  | wave => Sound.waveLevel
  | _ => Sound.level

end Channel

/-- The note of a voice. -/
inductive Note where
  /-- A note of the player. -/
  | index (i : UInt8)
  /-- Silence the channel. -/
  | cut
deriving DecidableEq, Repr

def Note.byte : Note → UInt8
  | index i => i
  | cut => Sound.noteCut

/-- What a channel is asked to do; instrument zero means none. -/
structure Voice where
  note : Option Note := none
  instrument : UInt8 := 0
  volume : Option UInt8 := none
  effect : Option Effect := none
deriving DecidableEq, Repr

namespace Voice

/-- The kit of a voice on the noise channel. A cut is a kit of its own, so it
cannot be combined with another one. -/
def kit (mask : UInt8) (v : Voice) : Except Fault (Option UInt8) :=
  if v.note = some .cut then
    if v.instrument = 0 then .ok (some Sound.noteCut) else .error .cutWithKit
  else if v.instrument = 0 then .ok none
  else .ok (some (v.instrument &&& mask))

def leadByte (c : Channel) (v : Voice) : Except Fault (Option UInt8) :=
  match c.lead with
  | .note => .ok (v.note.map Note.byte)
  | .kit => v.kit c.instrumentMask

def instrumentField (c : Channel) (v : Voice) : Option UInt8 :=
  match c.lead with
  | .note => if v.instrument = 0 then none else some (v.instrument &&& c.instrumentMask)
  | .kit => none

def action (d : Dialect) (c : Channel) (v : Voice) : Journal Fault (Option Action) :=
  match v.effect with
  | none => pure none
  | some e => d.action c e

def encode (d : Dialect) (c : Channel) (v : Voice) : Journal Fault Command := do
  let lead ← .ofExcept (v.leadByte c)
  let action ← v.action d c
  pure (.assemble lead (v.instrumentField c) action (v.volume.map c.quantize))

end Voice

def encodeVoice (d : Dialect) (place : Place) (voice : Except Fault Voice) :
    Journal Failure Bytecode.Command :=
  (do (← Journal.ofExcept voice).encode d place.channel).mapError (Failure.cell place)

/-- The bytes of a row whose channels have the given voices. -/
def encodeVoices (d : Dialect) (pattern row : Nat) (voice : Channel → Except Fault Voice) :
    Journal Failure (List UInt8) := do
  let pulse1 ← encodeVoice d ⟨pattern, row, .pulse1⟩ (voice .pulse1)
  let pulse2 ← encodeVoice d ⟨pattern, row, .pulse2⟩ (voice .pulse2)
  let wave ← encodeVoice d ⟨pattern, row, .wave⟩ (voice .wave)
  let noise ← encodeVoice d ⟨pattern, row, .noise⟩ (voice .noise)
  pure (Bytecode.encodeRow ⟨pulse1, pulse2, wave, noise⟩)

end Chiptune

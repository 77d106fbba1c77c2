/-!
# Effects of the player

The player knows nine effects. An effect's number fills the low nibble of the
byte that it shares with the instrument, and a parameter follows; `Action` is
an effect with its parameter.
-/

namespace Chiptune.Bytecode

/-- An effect of the player. -/
inductive Opcode where
  | pan
  | arpeggio
  | noteCut
  | vibrato
  | volumeSlide
  | patternJump
  | breakSetStep
  | speed
  | event
deriving DecidableEq, Repr

namespace Opcode

def code : Opcode → UInt8
  | pan => 0
  | arpeggio => 1
  | noteCut => 2
  | vibrato => 3
  | volumeSlide => 4
  | patternJump => 8
  | breakSetStep => 9
  | speed => 10
  | event => 15

def ofCode? (code : UInt8) : Option Opcode :=
  match code.toNat with
  | 0 => some pan
  | 1 => some arpeggio
  | 2 => some noteCut
  | 3 => some vibrato
  | 4 => some volumeSlide
  | 8 => some patternJump
  | 9 => some breakSetStep
  | 10 => some speed
  | 15 => some event
  | _ => none

def name : Opcode → String
  | pan => "pan"
  | arpeggio => "arpeggio"
  | noteCut => "note_cut"
  | vibrato => "vibrato"
  | volumeSlide => "volume_slide"
  | patternJump => "pattern_jump"
  | breakSetStep => "break_set_step"
  | speed => "speed"
  | event => "event"

@[simp] theorem ofCode?_code (o : Opcode) : ofCode? o.code = some o := by
  cases o <;> rfl

end Opcode

/-- An effect with its parameter. -/
structure Action where
  opcode : Opcode
  param : UInt8
deriving DecidableEq, Repr

/-- The bit of a volume slide's parameter that makes it rise. -/
def slideUp : UInt8 := 8

end Chiptune.Bytecode

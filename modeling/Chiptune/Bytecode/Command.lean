import Chiptune.Bytecode.Opcode

/-!
# Channel commands

A command starts with a header whose high bits say which bytes follow: the lead
byte (a note, or a kit on the noise channel), one byte shared by instrument and
effect, and the effect's parameter. A volume sits in the header itself and adds
no byte. Commands have four bytes at most; `Command` is such a slot, of which
the header says how many bytes are meant.
-/

namespace Chiptune.Bytecode

/-- Header bit: the low nibble is a volume. -/
def volumeFlag : UInt8 := 0x10
/-- Header bit: the shared byte carries an instrument. -/
def instrumentFlag : UInt8 := 0x20
/-- Header bit: the shared byte carries an effect, and its parameter follows. -/
def effectFlag : UInt8 := 0x40
/-- Header bit: a note or a kit follows. -/
def leadFlag : UInt8 := 0x80
def volumeMask : UInt8 := 0x0F

def hasVolume (header : UInt8) : Bool := header &&& volumeFlag != 0
def hasInstrument (header : UInt8) : Bool := header &&& instrumentFlag != 0
def hasEffect (header : UInt8) : Bool := header &&& effectFlag != 0
def hasLead (header : UInt8) : Bool := header &&& leadFlag != 0

/-- The length of the command that a header starts, the header included. -/
def commandLength (header : UInt8) : Nat :=
  1 + (hasLead header).toNat + (hasInstrument header || hasEffect header).toNat +
    (hasEffect header).toNat

theorem commandLength_pos (header : UInt8) : 0 < commandLength header := by
  unfold commandLength; omega

theorem commandLength_le (header : UInt8) : commandLength header ≤ 4 := by
  unfold commandLength
  cases hasLead header <;> cases hasInstrument header <;> cases hasEffect header <;> decide

/-- A slot of four bytes that holds one command. -/
structure Command where
  header : UInt8
  second : UInt8
  third : UInt8
  fourth : UInt8
deriving DecidableEq, Repr

namespace Command

def rest : Command := ⟨0, 0, 0, 0⟩

def raw (c : Command) : List UInt8 := [c.header, c.second, c.third, c.fourth]

def length (c : Command) : Nat := commandLength c.header

def toBytes (c : Command) : List UInt8 := c.raw.take c.length

def isRest (c : Command) : Bool := c.header == 0

/-- The slot that holds a header and at most three more bytes. -/
def ofBytes (header : UInt8) (body : List UInt8) : Command :=
  ⟨header, body.getD 0 0, body.getD 1 0, body.getD 2 0⟩

def headerFor (lead instrument : Option UInt8) (action : Option Action)
    (volume : Option UInt8) : UInt8 :=
  (if lead.isSome then leadFlag else 0) ||| (if action.isSome then effectFlag else 0) |||
    (if instrument.isSome then instrumentFlag else 0) |||
    match volume with
    | none => 0
    | some v => volumeFlag ||| (v &&& volumeMask)

/-- The byte that instrument and effect share; an absent one leaves its nibble
zero. -/
def sharedByte (instrument : Option UInt8) (action : Option Action) : List UInt8 :=
  match instrument, action with
  | none, none => []
  | some i, none => [i <<< 4]
  | none, some a => [a.opcode.code]
  | some i, some a => [(i <<< 4) ||| a.opcode.code]

def bodyFor (lead instrument : Option UInt8) (action : Option Action) : List UInt8 :=
  lead.toList ++ sharedByte instrument action ++ (action.map Action.param).toList

def assemble (lead instrument : Option UInt8) (action : Option Action)
    (volume : Option UInt8) : Command :=
  ofBytes (headerFor lead instrument action volume) (bodyFor lead instrument action)

theorem length_toBytes (c : Command) : c.toBytes.length = c.length := by
  have := commandLength_le c.header
  simp [toBytes, raw, length]
  omega

end Command

end Chiptune.Bytecode

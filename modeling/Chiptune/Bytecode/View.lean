import Chiptune.Bytecode.Command
import Chiptune.Channel
import Chiptune.Malformed

/-!
# Reading a command back

A view lists the fields of a command. On the noise channel the lead byte is a
kit, on the others it is a note. `View.decode` reads a command from the front
of a byte string, and `View.toBytes` writes its bytes again, an absent nibble
of the shared byte as zero.

A row is the commands of the four channels back to back, without separators:
each header tells where the next command starts. A row must end with its fourth
command.
-/

namespace Chiptune.Bytecode

def kitChannel : Nat := 4

/-- The fields of a command. -/
structure View where
  channel : Nat
  header : UInt8
  note : Option UInt8
  kit : Option UInt8
  instrument : Option UInt8
  action : Option Action
  volume : Option UInt8
deriving DecidableEq, Repr

namespace View

def isRest (v : View) : Bool := v.header == 0

/-- The next byte, if the header announces it. -/
def optionalByte : Bool → List UInt8 → Except Malformed (Option UInt8 × List UInt8)
  | false, bytes => .ok (none, bytes)
  | true, [] => .error .commandShort
  | true, b :: rest => .ok (some b, rest)

/-- The effect numbered by the low nibble of the shared byte, with the parameter
that follows that byte. -/
def actionOf (shared : UInt8) (rest : List UInt8) : Except Malformed Action :=
  match Opcode.ofCode? (shared &&& 0x0F) with
  | none => .error (.unknownOpcode (shared &&& 0x0F).toNat)
  | some opcode =>
    match rest with
    | [] => .error .commandShort
    | param :: _ => .ok ⟨opcode, param⟩

/-- The command at the front of a byte string; what follows it does not matter. -/
def decode (channel : Nat) : List UInt8 → Except Malformed View
  | [] => .error (.commandEmpty channel)
  | header :: body => do
    let (lead, body) ← optionalByte (hasLead header) body
    let (shared, body) ← optionalByte (hasInstrument header || hasEffect header) body
    let shared := shared.getD 0
    let action ←
      if hasEffect header then (actionOf shared body).map some
      else .ok none
    .ok {
      channel := channel
      header := header
      note := if channel = kitChannel then none else lead
      kit := if channel = kitChannel then lead else none
      instrument := if hasInstrument header then some (shared >>> 4) else none
      action := action
      volume := if hasVolume header then some (header &&& volumeMask) else none }

def toBytes (v : View) : List UInt8 :=
  v.header :: ((v.kit.or v.note).toList ++ Command.sharedByte v.instrument v.action ++
    (v.action.map Action.param).toList)

end View

def encodeRow (commands : PerChannel Command) : List UInt8 :=
  commands.toList.flatMap Command.toBytes

/-- Split the command of a channel off the front of a row. -/
def splitCommand (channel : Channel) (row : List UInt8) :
    Except Malformed (View × List UInt8) :=
  match row with
  | [] => .error (.rowEnds channel.number)
  | header :: _ =>
    if row.length < commandLength header then .error (.commandTruncated channel.number)
    else
      (View.decode channel.number (row.take (commandLength header))).map
        (·, row.drop (commandLength header))

def decodeRow (row : List UInt8) : Except Malformed (PerChannel View) := do
  let (pulse1, row) ← splitCommand .pulse1 row
  let (pulse2, row) ← splitCommand .pulse2 row
  let (wave, row) ← splitCommand .wave row
  let (noise, row) ← splitCommand .noise row
  if row.isEmpty then .ok ⟨pulse1, pulse2, wave, noise⟩
  else .error (.trailingBytes row.length)

end Chiptune.Bytecode

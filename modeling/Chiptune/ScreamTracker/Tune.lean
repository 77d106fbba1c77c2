import Chiptune.ScreamTracker.Instrument
import Chiptune.ScreamTracker.Row

/-!
# Scream Tracker songs

The song header has fixed fields, then the order list and the tables of
instrument and pattern paragraphs, then, if announced, a table of pan
positions. The player has one tempo and four channels, so a song must ask for
that tempo and keep its first four channels switched on.
-/

namespace Chiptune.ScreamTracker

/-- The signature "SCRM" of a song. -/
def songSignature : List UInt8 := [0x53, 0x43, 0x52, 0x4D]

def signatureOffset : Nat := 0x2C

def nameMarker : UInt8 := 0x1A

/-- The one tempo that the player has. -/
def playerTempo : UInt8 := 150

def customPanningFlag : UInt8 := 252

def channelOff : UInt8 := 16

def channelSlots : Nat := 32

def ordersOffset : Nat := 0x60

/-- A song read from an image. -/
structure Tune where
  image : Image
  name : String
  speed : UInt8
  tempo : UInt8
  pans : PerChannel UInt8
  customPanning : Bool
  orders : List UInt8
  instruments : List (Option Instrument)
  patternParagraphs : List Nat
deriving DecidableEq, Repr

/-- The pan position of a table entry, if the entry has one. -/
def panOfEntry (entry : UInt8) : UInt8 :=
  if entry &&& 0x20 != 0 then entry &&& 0x0F else Sound.centre

def require (condition : Bool) (cause : Malformed) : Except Malformed Unit :=
  if condition then .ok () else .error cause

def requireEnabled (settings : List UInt8) (c : Channel) : Except Malformed Unit :=
  let setting := settings.getD c.index 0
  require (setting < channelOff) (.channelDisabled c.number setting)

def readPans (image : Image) (custom : Bool) (offset : Nat) :
    Except Malformed (PerChannel UInt8) :=
  if custom then
    (image.slice offset channelSlots).map fun table =>
      .ofFn fun c => panOfEntry (table.getD c.index 0)
  else .ok (.ofFn fun _ => Sound.centre)

namespace Tune

def parse (image : Image) : Except Malformed Tune := do
  let name ← image.text 0 28
  let signature ← image.slice signatureOffset 4
  require (signature = songSignature) .songSignature
  let marker ← image.byte 0x1C
  require (marker = nameMarker) .headerMarker
  let orderCount ← image.word 0x20
  let instrumentCount ← image.word 0x22
  let patternCount ← image.word 0x24
  let speed ← image.byte 0x31
  let tempo ← image.byte 0x32
  require (tempo = playerTempo) (.tempo tempo)
  require (speed != 0) .initialSpeed
  let panning ← image.byte 0x35
  let custom := panning = customPanningFlag
  let settings ← image.slice 0x40 channelSlots
  requireEnabled settings .pulse1
  requireEnabled settings .pulse2
  requireEnabled settings .wave
  requireEnabled settings .noise
  let orders ← image.slice ordersOffset orderCount
  let instrumentTable := ordersOffset + orderCount
  let instrumentParagraphs ← image.words instrumentTable instrumentCount
  let patternTable := instrumentTable + 2 * instrumentCount
  let patternParagraphs ← image.words patternTable patternCount
  let pans ← readPans image custom (patternTable + 2 * patternCount)
  let instruments ← instrumentParagraphs.mapM (Instrument.load image)
  pure {
    image := image
    name := name
    speed := speed
    tempo := tempo
    pans := pans
    customPanning := custom
    orders := orders
    instruments := instruments
    patternParagraphs := patternParagraphs }

def patternCount (tune : Tune) : Nat := tune.patternParagraphs.length

def pattern (tune : Tune) (index : Nat) : Except Malformed Pattern :=
  match tune.patternParagraphs[index]? with
  | none => .error (.patternRange index tune.patternCount)
  | some paragraph => Pattern.load tune.image paragraph

/-- The instrument with a number, counted from one. -/
def instrument (tune : Tune) (number : UInt8) : Option Instrument :=
  if number = 0 then none else (tune.instruments[number.toNat - 1]?).join

def defaultVolume (tune : Tune) (number : UInt8) : Option UInt8 :=
  (tune.instrument number).map Instrument.defaultVolume

/-- The orders that name a pattern; the others are markers. -/
def validOrders (tune : Tune) : List Nat :=
  let count := tune.patternCount
  (tune.orders.map UInt8.toNat).filter (· < count)

end Tune

end Chiptune.ScreamTracker

import Chiptune.Options
import Chiptune.Song
import Chiptune.Startup
import Chiptune.Voice

/-!
# Compiling Scream Tracker songs

Every pattern that the orders name is encoded, in ascending order; patterns that
are never played are left out, and with them whatever is wrong in them. Then
comes the start-up stream: speed, panning and, if asked for, the instruments of
the wave slots.
-/

namespace Chiptune.ScreamTracker.Tune

def dialect (o : Options) : Dialect := ⟨.screamTracker, o.convertsSpeed .screamTracker⟩

def compileRow (tune : Tune) (o : Options) (index row : Nat) (fields : Row) :
    Journal Failure (List UInt8) :=
  encodeVoices (dialect o) index row fun c =>
    (fields.cells.get c).voice c.lead tune.defaultVolume

def compilePattern (tune : Tune) (o : Options) (index : Nat) : Journal Failure Song.Pattern := do
  let pattern ← .ofExcept ((tune.pattern index).mapError .malformed)
  let rows ← pattern.tellRows
  let encoded ← Journal.traverse (fun (fields, row) => tune.compileRow o index row fields)
    rows.zipIdx
  .note (.patternExported index encoded.length)
  pure ⟨index, encoded⟩

def compileIfPlayed (tune : Tune) (o : Options) (played : List Nat) (index : Nat) :
    Journal Failure (Option Song.Pattern) :=
  if played.contains index then do
    let pattern ← tune.compilePattern o index
    pure (some pattern)
  else do
    .note (.patternUnreferenced index)
    pure none

/-- The start-up item of a wave slot, if it holds an instrument. -/
def waveSlot (tune : Tune) (number : UInt8) : Journal Failure (Option StartupItem) :=
  match tune.instrument number with
  | none => pure none
  | some instrument => do
    .note (.exportingInstrument number.toNat instrument.name)
    let item ← .ofExcept ((waveItem tune.image number instrument).mapError .malformed)
    pure (some item)

def panning (tune : Tune) : PerChannel UInt8 :=
  .ofFn fun c => Sound.panMask c (tune.pans.get c)

def startup (tune : Tune) (o : Options) : Journal Failure (List UInt8) := do
  .noteIf tune.customPanning .customPanning
  let waves ← Journal.traverse tune.waveSlot (if o.exportInstruments then waveNumbers else [])
  pure (StartupItem.encode (
    [.speed (Sound.playerSpeed tune.speed (o.convertsSpeed .screamTracker)),
      .panning tune.panning] ++ waves.filterMap id))

def headerEvents (tune : Tune) : List Event := [
  .songName tune.name,
  .orderCount tune.orders.length,
  .patternCount tune.patternCount,
  .instrumentCount tune.instruments.length]

def skippedOrders (tune : Tune) : List Event :=
  let count := tune.patternCount
  (tune.orders.filter fun order => count ≤ order.toNat).map .orderSkipped

def compile (tune : Tune) (o : Options) (name : String) : Journal Failure Song := do
  .noteAll tune.headerEvents
  .noteAll tune.skippedOrders
  .note .exportingPatterns
  let patterns ← Journal.traverse (tune.compileIfPlayed o tune.validOrders.eraseDups)
    (List.range tune.patternCount)
  .note .exportingStartup
  let startup ← tune.startup o
  let song : Song := ⟨name, patterns.filterMap id, some startup, tune.validOrders⟩
  .note (.patternBytes song.patternBytes)
  pure song

end Chiptune.ScreamTracker.Tune

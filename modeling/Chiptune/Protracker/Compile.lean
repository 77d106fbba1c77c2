import Chiptune.Options
import Chiptune.Protracker.Tune
import Chiptune.Song
import Chiptune.Voice

/-!
# Compiling Protracker songs

Every pattern that is played is encoded, in ascending order and row by row.
These songs have no start-up stream.
-/

namespace Chiptune.Protracker.Tune

def dialect (o : Options) : Dialect := ⟨.protracker, o.convertsSpeed .protracker⟩

def compileRow (tune : Tune) (o : Options) (index row : Nat) : Journal Failure (List UInt8) := do
  let cells ← .ofExcept ((tune.row index row).mapError .malformed)
  encodeVoices (dialect o) index row fun c => (cells.get c).voice c.lead

def compilePattern (tune : Tune) (o : Options) (index : Nat) : Journal Failure Song.Pattern := do
  let rows ← Journal.traverse (tune.compileRow o index) (List.range rowsPerPattern)
  pure ⟨index, rows⟩

/-- The patterns that are played, each once and in ascending order. -/
def played (tune : Tune) : List Nat := (List.range 256).filter tune.orders.contains

def compile (tune : Tune) (o : Options) (name : String) : Journal Failure Song := do
  .noteAll [.songName tune.name, .songLength tune.length, .exportingPatterns]
  let patterns ← Journal.traverse (tune.compilePattern o) tune.played
  pure ⟨name, patterns, none, tune.orders⟩

end Chiptune.Protracker.Tune

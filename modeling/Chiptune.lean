import Chiptune.Image.Cursor
import Chiptune.Main
import Chiptune.Proofs.Bytecode.Splitting
import Chiptune.Proofs.FirstFault
import Chiptune.Proofs.InstrumentExport
import Chiptune.Proofs.Legality
import Chiptune.Proofs.Protracker.Translation
import Chiptune.Proofs.ScreamTracker.Packing
import Chiptune.Proofs.ScreamTracker.Translation
import Chiptune.Proofs.Song.Linked
import Chiptune.Proofs.Song.SourceRoundTrip
import Chiptune.Proofs.Song.ViewRoundTrip
import Chiptune.Proofs.SpeedConversion
import Chiptune.Proofs.Startup
import Chiptune.Song.Sink
import Chiptune.Proofs.ScreamTracker.Container
import Chiptune.Proofs.ScreamTracker.Footprint
import Chiptune.Proofs.Machine.Arithmetic
import Chiptune.Proofs.Machine.Sound
import Chiptune.Proofs.RowCount
import Chiptune.Proofs.Machine.Encoding
import Chiptune.Proofs.Machine.Reading
import Chiptune.Proofs.Machine.Patterns
import Chiptune.Proofs.Machine.Rows
import Chiptune.Proofs.Machine.Containers
import Chiptune.Proofs.Machine.Compilation
import Chiptune.Proofs.Protracker.EffectColumn
import Chiptune.Proofs.Directory
import Chiptune.Proofs.FileConversion
import Chiptune.Proofs.Detection
import Chiptune.Proofs.CompressedFiles
import Chiptune.Proofs.VoiceRoundTrip
import Chiptune.Proofs.ScreamTracker.Merging
import Chiptune.Proofs.Machine.Cursor
import Chiptune.Proofs.Text.Field

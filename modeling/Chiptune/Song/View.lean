import Chiptune.Bytecode.View
import Chiptune.Options
import Chiptune.Song

/-!
# Songs as JSON

The view of a song shows its commands field by field. It leaves out commands
that do nothing, and it exists only if every row is a sequence of four
commands. `Song.toJson` is the plain form, with the bytes of each row.
-/

namespace Chiptune

open Bytecode

/-- The commands of a row that do something. -/
structure RowView where
  row : Nat
  commands : List View
deriving DecidableEq, Repr

/-- The rows of a pattern. -/
structure PatternView where
  index : Nat
  size : Nat
  rows : List RowView
deriving DecidableEq, Repr

/-- A song with its commands decoded. -/
structure SongView where
  name : String
  options : Options
  startup : Option (List UInt8)
  orders : List Nat
  patterns : List PatternView
deriving DecidableEq, Repr

def RowView.ofBytes (row : Nat) (bytes : List UInt8) : Except Malformed RowView :=
  (decodeRow bytes).map fun commands => ⟨row, commands.toList.filter (!·.isRest)⟩

def PatternView.ofPattern (p : Song.Pattern) : Except Malformed PatternView :=
  (p.rows.zipIdx.mapM fun (bytes, row) => RowView.ofBytes row bytes).map fun rows =>
    ⟨p.index, p.size, rows⟩

def SongView.ofSong (song : Song) (options : Options) : Except Malformed SongView :=
  (song.patterns.mapM PatternView.ofPattern).map fun patterns =>
    ⟨song.name, options, song.startup, song.orders, patterns⟩

def Json.ofNats (numbers : List Nat) : Json := .array (numbers.map .number)

/-- A command as an object; absent fields are left out. -/
def Bytecode.View.toJson (v : View) : Json :=
  .object (
    [("channel", .number v.channel), ("header", .number v.header.toNat)] ++
    Json.optional "note" (v.note.map (.number ·.toNat)) ++
    Json.optional "kit" (v.kit.map (.number ·.toNat)) ++
    Json.optional "instrument" (v.instrument.map (.number ·.toNat)) ++
    Json.optional "effect" (v.action.map (.string ·.opcode.name)) ++
    Json.optional "param" (v.action.map (.number ·.param.toNat)) ++
    Json.optional "volume" (v.volume.map (.number ·.toNat)))

def RowView.toJson (r : RowView) : Json :=
  .object (("row", .number r.row) ::
    if r.commands.isEmpty then [] else [("commands", .array (r.commands.map View.toJson))])

def PatternView.toJson (p : PatternView) : Json :=
  .object [("index", .number p.index), ("bytes", .number p.size),
    ("rows", .array (p.rows.map RowView.toJson))]

def SongView.toJson (s : SongView) : Json :=
  .object (
    [("name", .string s.name), ("options", s.options.toJson)] ++
    Json.optional "init_state" (s.startup.map Json.ofBytes) ++
    [("orders", Json.ofNats s.orders), ("patterns", .array (s.patterns.map PatternView.toJson))])

def Song.toJson (song : Song) : Json :=
  .object [
    ("name", .string song.name),
    ("patterns", .array (song.patterns.map fun p =>
      .object [("index", .number p.index), ("rows", .array (p.rows.map Json.ofBytes))])),
    ("init_state", (song.startup.map Json.ofBytes).getD .null),
    ("orders", Json.ofNats song.orders)]

end Chiptune

import Chiptune.Song
import Chiptune.Text.Quoted

/-!
# Songs as C source

A song becomes a C file of constant arrays: one for each pattern, one for the
start-up stream if there is one, and a table of pointers that starts with the
stream and lists the patterns in playing order up to a null pointer. Each row
is a line of its own.
-/

namespace Chiptune.Song

open Text

def prologue : List String := [
  "// File created by s3m2gbt\n",
  "\n",
  "#include <stddef.h>\n",
  "#include <stdint.h>\n",
  "\n"]

def sourceItem (b : UInt8) : String := "0x" ++ Hexadecimal.byte b ++ ","

def sourceRow (bytes : List UInt8) : String :=
  "    " ++ String.join (bytes.map sourceItem) ++ "\n"

/-- An array: its opening line, its rows, and its end. -/
def sourceArray (opening : String) (rows : List (List UInt8)) : List String :=
  (opening ++ "[] = \x7b\n") :: (rows.map sourceRow ++ ["\x7d;\n", "\n"])

def patternLines (name : String) (p : Pattern) : List String :=
  sourceArray s!"static const uint8_t {name}_{p.index}" p.rows

def startupLines (name : String) (startup : Option (List UInt8)) : List String :=
  match startup with
  | none => []
  | some bytes => sourceArray s!"const uint8_t {name}_init_state" [bytes]

def tableEntry (entry : String) : String := "    " ++ entry ++ ",\n"

def tableLines (song : Song) : List String :=
  [s!"const uint8_t *{song.name}[] = \x7b\n",
    tableEntry (if song.startup.isSome then song.name ++ "_init_state" else "NULL")] ++
  song.orders.map (fun order => tableEntry s!"{song.name}_{order}") ++
  ["    NULL\n", "\x7d;\n"]

def sourceLines (song : Song) : List String :=
  prologue ++ song.patterns.flatMap (patternLines song.name) ++
    startupLines song.name song.startup ++ song.tableLines

def source (song : Song) : String := String.join song.sourceLines

end Chiptune.Song

import Chiptune.Proofs.Song.Reader
import Mathlib.Data.List.Monad

/-!
# Songs read back from their source

A reader that makes a song of a C file: the array of pointers names the song,
the number at the end of a name is the index of a pattern, each line of an array
is a row, and the pointers between the first and the last are the orders. Bytes
are read from their two hexadecimal digits, numbers from their decimal ones.

Whatever a song consists of, its source is read back as this song. Songs with
the same source are therefore the same.
-/

namespace Chiptune.Song

/-- The number that decimal digits spell. -/
def number? (digits : List Char) : Option Nat :=
  if digits ≠ [] ∧ digits.all Char.isDigit then some (Nat.ofDigitChars 10 digits 0) else none

/-- The index in the name of the array of a pattern, behind the name of its song. -/
def indexOf? (name label : String) : Option Nat :=
  (label.toList.dropPrefix? (name.toList ++ ['_'])).bind number?

/-- The bytes of items, each of which is written as two digits and ends with a
comma. -/
def items? : List Char → Option (List UInt8)
  | [] => some []
  | '0' :: 'x' :: high :: low :: ',' :: rest => do
    let high ← Text.Hexadecimal.value? high
    let low ← Text.Hexadecimal.value? low
    let bytes ← items? rest
    some (UInt8.ofNat (16 * high + low) :: bytes)
  | _ => none

/-- The bytes in a line of an array. -/
def bytesOf? (line : List Char) : Option (List UInt8) :=
  (line.dropPrefix? indent).bind items?

def patternOf? (name : String) (array : Declaration) : Option Pattern := do
  let index ← indexOf? name array.name
  let rows ← array.body.mapM bytesOf?
  some ⟨index, rows⟩

/-- The start-up stream in an array, which has a single line. -/
def streamOf? (array : Declaration) : Option (List UInt8) :=
  match array.body with
  | [line] => bytesOf? line
  | _ => none

/-- The array is the start-up stream of the song with a name. -/
def isStream (name : String) (array : Declaration) : Bool := array.name = startupName name

/-- The song that arrays of bytes and a table of pointers make. A song has one
start-up stream at most. -/
def ofArrays? (arrays : List Declaration) (table : Declaration) : Option Song := do
  let patterns ← (arrays.filter (!isStream table.name ·)).mapM (patternOf? table.name)
  let streams ← (arrays.filter (isStream table.name)).mapM streamOf?
  let orders ← table.elements.tail.dropLast.mapM (indexOf? table.name)
  if streams.length ≤ 1 then some ⟨table.name, patterns, streams.head?, orders⟩ else none

/-- The song whose source a text is. -/
def ofSource? (text : String) : Option Song := do
  let table ← (declarations text).getLast?
  if table.pointers then ofArrays? (declarations text).dropLast table else none

theorem number?_toDigits (n : Nat) : number? (Nat.toDigits 10 n) = some n := by
  have digits : (Nat.toDigits 10 n).all Char.isDigit = true := by
    rw [List.all_eq_true]
    intro c member
    exact Nat.isDigit_of_mem_toDigits (by decide) (by decide) member
  rw [number?, if_pos ⟨Nat.toDigits_ne_nil, digits⟩, Nat.ofDigitChars_ten_toDigits]

theorem indexOf?_patternName (name : String) (index : Nat) :
    indexOf? name (patternName name index) = some index := by
  have spelled : (patternName name index).toList =
      (name.toList ++ ['_']) ++ Nat.toDigits 10 index := by
    rw [toList_patternName, List.append_assoc]
    rfl
  rw [indexOf?, spelled, List.dropPrefix?_append_of_beq _ (beq_self_eq_true _)]
  exact number?_toDigits index

/-- The two digits of a byte spell the byte. -/
theorem items?_sourceItem (b : UInt8) (rest : List Char) :
    items? ((sourceItem b).toList ++ rest) = (items? rest).map (b :: ·) := by
  have spelled : (sourceItem b).toList ++ rest = '0' :: 'x' ::
      Text.Hexadecimal.digit (b.toNat / 16) :: Text.Hexadecimal.digit (b.toNat % 16) :: ',' ::
        rest := by
    simp [sourceItem, Text.Hexadecimal.byte, Text.Hexadecimal.byteDigits]
  have high := Text.Hexadecimal.value?_digit (n := b.toNat / 16) (by have := b.toNat_lt; omega)
  have low := Text.Hexadecimal.value?_digit (n := b.toNat % 16) (by omega)
  have whole : UInt8.ofNat (16 * (b.toNat / 16) + b.toNat % 16) = b := by
    rw [Nat.div_add_mod, UInt8.ofNat_toNat]
  rw [spelled, items?, high, low]
  simp only [Option.bind_eq_bind, Option.bind_some, whole]
  cases items? rest <;> rfl

theorem items?_flatMap (bytes : List UInt8) :
    items? (bytes.flatMap fun b => (sourceItem b).toList) = some bytes := by
  induction bytes with
  | nil => rfl
  | cons b bytes ih => rw [List.flatMap_cons, items?_sourceItem, ih, Option.map_some]

theorem bytesOf?_rowLine (bytes : List UInt8) : bytesOf? (rowLine bytes) = some bytes := by
  rw [bytesOf?, rowLine, List.dropPrefix?_append_of_beq _ (beq_self_eq_true _)]
  exact items?_flatMap bytes

/-- What is read back one by one is read back as a list. -/
theorem mapM_map_eq_some {α β : Type} {write : α → β} {read : β → Option α}
    (h : ∀ a, read (write a) = some a) (items : List α) :
    (items.map write).mapM read = some items := by
  have each : read ∘ write = fun a => pure (id a) := funext h
  rw [List.mapM_map, each, List.mapM_pure, List.map_id]
  rfl

theorem patternOf?_patternArray (name : String) (p : Pattern) :
    patternOf? name (patternArray name p) = some p := by
  simp [patternOf?, patternArray, indexOf?_patternName, mapM_map_eq_some bytesOf?_rowLine]

theorem streamOf?_startupArray (name : String) (bytes : List UInt8) :
    streamOf? (startupArray name bytes) = some bytes :=
  bytesOf?_rowLine bytes

theorem isStream_patternArray (name : String) (p : Pattern) :
    isStream name (patternArray name p) = false :=
  decide_eq_false (patternName_ne_startupName name p.index)

theorem isStream_startupArray (name : String) (bytes : List UInt8) :
    isStream name (startupArray name bytes) = true :=
  decide_eq_true rfl

theorem filter_not_isStream (song : Song) :
    (byteArrays song).filter (!isStream song.name ·) =
      song.patterns.map (patternArray song.name) := by
  have patterns : (song.patterns.map (patternArray song.name)).filter (!isStream song.name ·) =
      song.patterns.map (patternArray song.name) := by
    rw [List.filter_eq_self, List.forall_mem_map]
    intro p _
    rw [isStream_patternArray]
    rfl
  have streams : (song.startup.toList.map (startupArray song.name)).filter
      (!isStream song.name ·) = [] := by
    rw [List.filter_eq_nil_iff, List.forall_mem_map]
    intro bytes _
    rw [isStream_startupArray]
    decide
  rw [byteArrays, List.filter_append, patterns, streams, List.append_nil]

theorem filter_isStream (song : Song) :
    (byteArrays song).filter (isStream song.name) =
      song.startup.toList.map (startupArray song.name) := by
  have patterns : (song.patterns.map (patternArray song.name)).filter (isStream song.name) =
      [] := by
    rw [List.filter_eq_nil_iff, List.forall_mem_map]
    intro p _
    rw [isStream_patternArray]
    decide
  have streams : (song.startup.toList.map (startupArray song.name)).filter (isStream song.name) =
      song.startup.toList.map (startupArray song.name) := by
    rw [List.filter_eq_self, List.forall_mem_map]
    intro bytes _
    exact isStream_startupArray song.name bytes
  rw [byteArrays, List.filter_append, patterns, streams, List.nil_append]

theorem orders_tableArray {song : Song} (h : IsIdentifier song.name) :
    (tableArray song).elements.tail.dropLast = song.orders.map (patternName song.name) := by
  rw [elements_tableArray h, tableElements, List.cons_append, List.tail_cons, List.dropLast_concat]

theorem ofArrays?_byteArrays {song : Song} (h : IsIdentifier song.name) :
    ofArrays? (byteArrays song) (tableArray song) = some song := by
  have named : (tableArray song).name = song.name := rfl
  have single : song.startup.toList.length ≤ 1 := by
    cases song.startup <;> simp
  have first : song.startup.toList.head? = song.startup := by
    cases song.startup <;> rfl
  simp only [ofArrays?, named, filter_not_isStream, filter_isStream, orders_tableArray h,
    Option.bind_eq_bind, mapM_map_eq_some (patternOf?_patternArray song.name),
    mapM_map_eq_some (streamOf?_startupArray song.name),
    mapM_map_eq_some (indexOf?_patternName song.name), Option.bind_some, if_pos single, first]

theorem ofSource?_source {song : Song} (h : IsIdentifier song.name) :
    ofSource? song.source = some song := by
  have table : (tableArray song).pointers = true := rfl
  rw [ofSource?, declarations_source h, List.getLast?_concat, List.dropLast_concat]
  simp only [Option.bind_eq_bind, Option.bind_some, if_pos table]
  exact ofArrays?_byteArrays h

/-- A song whose name is an identifier is read back from its source, whatever it
consists of, and no other such song has the same source. -/
theorem source_determines_song {song : Song} (h : IsIdentifier song.name) :
    ofSource? song.source = some song ∧
      ∀ other : Song, IsIdentifier other.name → other.source = song.source → other = song := by
  refine ⟨ofSource?_source h, ?_⟩
  intro other identifier same
  have read : some other = some song := by
    rw [← ofSource?_source identifier, same, ofSource?_source h]
  exact Option.some.inj read

/-- A song that plays patterns it does not have. Its two patterns have the same
index, one of them has an empty row and the other no rows, and its start-up
stream is empty. -/
def raggedSong : Song where
  name := "_1"
  patterns := [⟨1, [[], [0x2C, 0x0A]]⟩, ⟨1, []⟩]
  startup := some []
  orders := [10, 1, 0]

theorem raggedSong_source_determines_song : IsIdentifier raggedSong.name ∧
    ofSource? raggedSong.source = some raggedSong ∧
    ∀ other : Song, IsIdentifier other.name → other.source = raggedSong.source →
      other = raggedSong := by
  have identifier : IsIdentifier raggedSong.name := by decide
  exact ⟨identifier, source_determines_song identifier⟩

end Chiptune.Song

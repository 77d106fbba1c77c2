import Chiptune.Song.Source
import Mathlib.Data.List.Infix

/-!
# Reading generated source

A reader of C files that declare arrays of bytes and of pointers. It goes by
lines: an opening line gives the name and the element type of an array, and the
lines up to the closing brace are the array's body. The elements of a body
stand between its commas.

What the writer makes of a song is read back as one array of bytes for each
pattern, in order, the start-up stream behind them, and the table at the end.
-/

namespace Chiptune.Song

/-- A character that may stand in a name. -/
def isNameChar (c : Char) : Bool := c.isAlphanum || c = '_'

/-- A C identifier: letters, digits and underscores, the first of them no digit. -/
structure IsIdentifier (name : String) : Prop where
  head : ∃ c ∈ name.toList.head?, ¬ c.isDigit
  chars : ∀ c ∈ name.toList, isNameChar c

theorem isIdentifier_iff {name : String} : IsIdentifier name ↔
    name.toList.head?.any (!·.isDigit) ∧ name.toList.all isNameChar := by
  rw [Option.any_eq_true, List.all_eq_true]
  constructor
  · intro h
    obtain ⟨⟨first, isFirst, letter⟩, chars⟩ := h
    exact ⟨⟨first, isFirst, by simpa using letter⟩, chars⟩
  · intro h
    obtain ⟨⟨first, isFirst, letter⟩, chars⟩ := h
    exact ⟨⟨first, isFirst, by simpa using letter⟩, chars⟩

instance (name : String) : Decidable (IsIdentifier name) :=
  decidable_of_iff' _ isIdentifier_iff

/-- A declared array. -/
structure Declaration where
  /-- The elements are pointers, not bytes. -/
  pointers : Bool
  name : String
  /-- The lines between the opening and the closing one. -/
  body : List (List Char)
deriving DecidableEq, Repr

/-- The line that closes an array. -/
def closing : List Char := ['\x7d', ';']

/-- What an opening line ends with, behind the name. -/
def brackets : List Char := ['[', ']', ' ', '=', ' ', '\x7b']

/-- The name in front of the brackets. -/
def arrayName? (text : List Char) : Option String :=
  let name := String.ofList (text.takeWhile isNameChar)
  if IsIdentifier name ∧ text.dropWhile isNameChar = brackets then some name else none

/-- The element type and the name of what is declared behind the word for bytes. -/
def declarator? : List Char → Option (Bool × String)
  | '*' :: array => (arrayName? array).map (true, ·)
  | array => (arrayName? array).map (false, ·)

/-- The element type and the name in an opening line. -/
def opening? (line : List Char) : Option (Bool × String) :=
  (((line.dropPrefix? "static ".toList).getD line).dropPrefix? "const uint8_t ".toList).bind
    declarator?

/-- The arrays that lines declare, in the order of their opening lines. -/
def declarationsIn : List (List Char) → List Declaration
  | [] => []
  | line :: rest =>
    match opening? line with
    | none => declarationsIn rest
    | some (pointers, name) =>
      ⟨pointers, name, rest.takeWhile (· ≠ closing)⟩ :: declarationsIn rest

/-- The lines of a text, with what follows the last line break. -/
def linesOf (text : String) : List (List Char) := text.toList.splitOn '\n'

/-- The arrays that a text declares, in the order of their opening lines. -/
def declarations (text : String) : List Declaration := declarationsIn (linesOf text)

/-- The elements of an array: what stands between the commas, without spaces. -/
def Declaration.elements (d : Declaration) : List String :=
  ((d.body.flatten.filter (· ≠ ' ')).splitOn ',').map String.ofList

/-- Parts that are each ended by a separator are found again. -/
theorem splitOn_ended {separator : Char} {parts : List (List Char)} {tail : List Char}
    (inside : ∀ part ∈ parts, separator ∉ part) (behind : separator ∉ tail) :
    (parts.flatMap (· ++ [separator]) ++ tail).splitOn separator = parts ++ [tail] := by
  induction parts with
  | nil => exact List.splitOn_eq_singleton behind
  | cons part parts ih =>
      have here : separator ∉ part := inside part (.head _)
      have later := ih fun part member => inside part (.tail _ member)
      have front : (part :: parts).flatMap (· ++ [separator]) ++ tail =
          part ++ separator :: (parts.flatMap (· ++ [separator]) ++ tail) := by
        simp
      rw [front, List.splitOn_append_cons_self_of_not_mem here, later]
      rfl

/-- Lines that declare nothing are passed over. -/
theorem declarationsIn_append {lines rest : List (List Char)}
    (plain : ∀ line ∈ lines, opening? line = none) :
    declarationsIn (lines ++ rest) = declarationsIn rest := by
  induction lines with
  | nil => rfl
  | cons line lines ih =>
      rw [List.cons_append, declarationsIn, plain line (.head _)]
      exact ih fun line member => plain line (.tail _ member)

theorem opening?_closing : opening? closing = none := by decide

/-- The lines from an opening to a closing one are one array. -/
theorem declarationsIn_array {line : List Char} {pointers : Bool} {name : String}
    {body rest : List (List Char)} (opens : opening? line = some (pointers, name))
    (plain : ∀ line ∈ body, opening? line = none) (unclosed : closing ∉ body) :
    declarationsIn (line :: (body ++ closing :: rest)) =
      ⟨pointers, name, body⟩ :: declarationsIn rest := by
  have taken : (body ++ closing :: rest).takeWhile (· ≠ closing) = body := by
    have whole : ∀ line ∈ body, decide (line ≠ closing) = true := by
      intro line member
      rw [decide_eq_true_eq]
      rintro rfl
      exact unclosed member
    rw [List.takeWhile_append_of_pos whole, List.takeWhile_cons_of_neg (by simp), List.append_nil]
  have closed : declarationsIn (closing :: rest) = declarationsIn rest := by
    rw [declarationsIn, opening?_closing]
  rw [declarationsIn, opens]
  simp only [taken, declarationsIn_append plain, closed]

theorem IsIdentifier.append {name suffix : String} (h : IsIdentifier name)
    (chars : ∀ c ∈ suffix.toList, isNameChar c) : IsIdentifier (name ++ suffix) := by
  obtain ⟨⟨first, isFirst, letter⟩, inName⟩ := h
  constructor
  · refine ⟨first, ?_, letter⟩
    rw [String.toList_append, List.head?_append, Option.mem_def.1 isFirst]
    rfl
  · intro c member
    rw [String.toList_append, List.mem_append] at member
    exact member.elim (inName c) (chars c)

/-- What stands in a line cannot be part of a name. -/
theorem IsIdentifier.not_mem {name : String} (h : IsIdentifier name) {c : Char}
    (outside : isNameChar c = false) : c ∉ name.toList := by
  intro member
  rw [h.chars c member] at outside
  cases outside

/-- The name of the array of a pattern. -/
def patternName (name : String) (index : Nat) : String := s!"{name}_{index}"

/-- The name of the array of the start-up stream. -/
def startupName (name : String) : String := name ++ "_init_state"

theorem toList_patternName (name : String) (index : Nat) :
    (patternName name index).toList = name.toList ++ '_' :: Nat.toDigits 10 index := by
  have joined : patternName name index = name ++ "_" ++ toString index := rfl
  rw [joined, String.toList_append, String.toList_append, Nat.toString_eq_repr, Nat.toList_repr,
    List.append_assoc]
  rfl

theorem patternName_inj {name : String} {i j : Nat} :
    patternName name i = patternName name j ↔ i = j := by
  constructor
  · intro h
    have digits : Nat.toDigits 10 i = Nat.toDigits 10 j := by
      have spelled := congrArg String.toList h
      rw [toList_patternName, toList_patternName] at spelled
      exact (List.cons.inj (List.append_cancel_left spelled)).2
    calc i = Nat.ofDigitChars 10 (Nat.toDigits 10 i) 0 := Nat.ofDigitChars_ten_toDigits.symm
      _ = Nat.ofDigitChars 10 (Nat.toDigits 10 j) 0 := by rw [digits]
      _ = j := Nat.ofDigitChars_ten_toDigits
  · rintro rfl
    rfl

/-- The number of a pattern is no word. -/
theorem patternName_ne_startupName (name : String) (index : Nat) :
    patternName name index ≠ startupName name := by
  intro h
  have spelled := congrArg String.toList h
  rw [toList_patternName, startupName, String.toList_append] at spelled
  have digits : Nat.toDigits 10 index = "init_state".toList :=
    (List.cons.inj (List.append_cancel_left spelled)).2
  have letter : 'i' ∈ Nat.toDigits 10 index := by
    rw [digits]
    decide
  have digit := Nat.isDigit_of_mem_toDigits (by decide) (by decide) letter
  revert digit
  decide

theorem IsIdentifier.patternName {name : String} (h : IsIdentifier name) (index : Nat) :
    IsIdentifier (patternName name index) := by
  have joined : Song.patternName name index = name ++ ("_" ++ toString index) :=
    String.append_assoc
  rw [joined]
  apply h.append
  intro c member
  rw [String.toList_append, Nat.toString_eq_repr, Nat.toList_repr] at member
  rcases List.mem_cons.1 member with rfl | later
  · rfl
  · have digit : c.isDigit := Nat.isDigit_of_mem_toDigits (by decide) (by decide) later
    simp [isNameChar, Char.isAlphanum, digit]

theorem IsIdentifier.startupName {name : String} (h : IsIdentifier name) :
    IsIdentifier (startupName name) := by
  have chars : "_init_state".toList.all isNameChar = true := by decide
  exact h.append (List.all_eq_true.1 chars)

theorem arrayName?_brackets {name : String} (h : IsIdentifier name) :
    arrayName? (name.toList ++ brackets) = some name := by
  have taken : (name.toList ++ brackets).takeWhile isNameChar = name.toList := by
    rw [List.takeWhile_append_of_pos h.chars]
    exact List.append_nil _
  have dropped : (name.toList ++ brackets).dropWhile isNameChar = brackets := by
    rw [List.dropWhile_append_of_pos h.chars]
    rfl
  unfold arrayName?
  rw [taken, dropped, String.ofList_toList, if_pos ⟨h, rfl⟩]

theorem declarator?_bytes {name : String} (h : IsIdentifier name) :
    declarator? (name.toList ++ brackets) = some (false, name) := by
  have noStar : ∀ array, name.toList ++ brackets ≠ '*' :: array := by
    intro array same
    obtain ⟨first, isFirst, -⟩ := h.head
    obtain ⟨rest, spelled⟩ := List.head?_eq_some_iff.1 isFirst
    rw [spelled] at same
    obtain ⟨rfl, -⟩ := List.cons.inj same
    exact h.not_mem (by decide) (spelled ▸ List.mem_cons_self)
  unfold declarator?
  split
  · rename_i array same
    exact absurd same (noStar array)
  · rw [arrayName?_brackets h]
    rfl

theorem declarator?_pointers {name : String} (h : IsIdentifier name) :
    declarator? ('*' :: (name.toList ++ brackets)) = some (true, name) := by
  have starred (text : List Char) :
      declarator? ('*' :: text) = (arrayName? text).map (true, ·) := rfl
  rw [starred, arrayName?_brackets h]
  rfl

theorem opening?_shared (text : List Char) :
    opening? ("const uint8_t ".toList ++ text) = declarator? text := by
  have noStatic : ("const uint8_t ".toList ++ text).dropPrefix? "static ".toList = none := rfl
  rw [opening?, noStatic, Option.getD_none,
    List.dropPrefix?_append_of_beq text (beq_self_eq_true _)]
  rfl

theorem opening?_static (text : List Char) :
    opening? ("static const uint8_t ".toList ++ text) = declarator? text := by
  have split : "static const uint8_t ".toList = "static ".toList ++ "const uint8_t ".toList := by
    decide
  rw [opening?, split, List.append_assoc, List.dropPrefix?_append_of_beq _ (beq_self_eq_true _),
    Option.getD_some, List.dropPrefix?_append_of_beq text (beq_self_eq_true _)]
  rfl

theorem opening?_indented (text : List Char) : opening? (' ' :: text) = none := rfl

/-- The lines of an array, with what stands before the name in the first one. -/
def Declaration.written (front : String) (d : Declaration) : List (List Char) :=
  (front.toList ++ (d.name.toList ++ brackets)) :: (d.body ++ [closing])

theorem declarationsIn_written {front : String} {d : Declaration} {rest : List (List Char)}
    (opens : opening? (front.toList ++ (d.name.toList ++ brackets)) =
      some (d.pointers, d.name))
    (indented : ∀ line ∈ d.body, ∃ text, line = ' ' :: text) :
    declarationsIn (d.written front ++ rest) = d :: declarationsIn rest := by
  have plain : ∀ line ∈ d.body, opening? line = none := by
    intro line member
    obtain ⟨text, rfl⟩ := indented line member
    exact opening?_indented text
  have unclosed : closing ∉ d.body := by
    intro member
    obtain ⟨text, same⟩ := indented closing member
    exact absurd (List.cons.inj same).1 (by decide)
  have joined : d.written front ++ rest =
      (front.toList ++ (d.name.toList ++ brackets)) :: (d.body ++ closing :: rest) := by
    simp [Declaration.written]
  rw [joined, declarationsIn_array opens plain unclosed]

/-- What the lines of a body start with. -/
def indent : List Char := [' ', ' ', ' ', ' ']

/-- A line of bytes. -/
def rowLine (bytes : List UInt8) : List Char :=
  indent ++ bytes.flatMap fun b => (sourceItem b).toList

/-- A line of the table. -/
def elementLine (element : String) : List Char := indent ++ element.toList ++ [',']

def patternArray (name : String) (p : Pattern) : Declaration :=
  ⟨false, patternName name p.index, p.rows.map rowLine⟩

def startupArray (name : String) (bytes : List UInt8) : Declaration :=
  ⟨false, startupName name, [rowLine bytes]⟩

/-- The elements of the table of a song before the null pointer at its end. -/
def tableElements (song : Song) : List String :=
  (if song.startup.isSome then startupName song.name else "NULL") ::
    song.orders.map (patternName song.name)

def tableArray (song : Song) : Declaration :=
  ⟨true, song.name, (tableElements song).map elementLine ++ [indent ++ "NULL".toList]⟩

/-- The arrays of bytes of a song. -/
def byteArrays (song : Song) : List Declaration :=
  song.patterns.map (patternArray song.name) ++ song.startup.toList.map (startupArray song.name)

/-- The lines of the source of a song. -/
def textLines (song : Song) : List (List Char) :=
  prologue.map (fun text => text.toList.dropLast) ++
    song.patterns.flatMap (fun p =>
      (patternArray song.name p).written "static const uint8_t " ++ [[]]) ++
    song.startup.toList.flatMap (fun bytes =>
      (startupArray song.name bytes).written "const uint8_t " ++ [[]]) ++
    (tableArray song).written "const uint8_t *"

theorem toList_sourceRow (bytes : List UInt8) :
    (sourceRow bytes).toList = rowLine bytes ++ ['\n'] := by
  rw [sourceRow, String.toList_append, String.toList_append, String.toList_join, List.flatMap_map]
  rfl

/-- An array of bytes is written line by line. -/
theorem toList_sourceArray (front name : String) (rows : List (List UInt8)) :
    (sourceArray (front ++ name) rows).flatMap String.toList =
      (Declaration.written front ⟨false, name, rows.map rowLine⟩ ++ [[]]).flatMap
        (· ++ ['\n']) := by
  simp [sourceArray, Declaration.written, closing, brackets, List.flatMap_map, toList_sourceRow]

/-- The table is written line by line. -/
theorem toList_tableLines (song : Song) :
    song.tableLines.flatMap String.toList =
      ((tableArray song).written "const uint8_t *").flatMap (· ++ ['\n']) := by
  have entries : song.tableLines = ("const uint8_t *" ++ song.name ++ "[] = \x7b\n") ::
      ((tableElements song).map tableEntry ++ ["    NULL\n", "\x7d;\n"]) := by
    rw [tableElements, List.map_cons, List.map_map]
    rfl
  have entry (element : String) : (tableEntry element).toList = elementLine element ++ ['\n'] := by
    simp [tableEntry, elementLine, indent]
  rw [entries]
  simp [Declaration.written, tableArray, closing, brackets, indent, List.flatMap_map, entry]

theorem toList_source (song : Song) :
    song.source.toList = (textLines song).flatMap (· ++ ['\n']) := by
  have front : prologue.flatMap String.toList =
      (prologue.map fun text => text.toList.dropLast).flatMap (· ++ ['\n']) := by decide
  have pattern (p : Pattern) : patternLines song.name p =
      sourceArray ("static const uint8_t " ++ patternName song.name p.index) p.rows := by
    have opening : s!"static const uint8_t {song.name}_{p.index}" =
        "static const uint8_t " ++ patternName song.name p.index := by
      simp only [patternName, String.append_assoc]
      rfl
    rw [patternLines, opening]
  have patterns : (song.patterns.flatMap (patternLines song.name)).flatMap String.toList =
      (song.patterns.flatMap fun p =>
        (patternArray song.name p).written "static const uint8_t " ++ [[]]).flatMap
          (· ++ ['\n']) := by
    simp only [List.flatMap_assoc, pattern, toList_sourceArray, patternArray]
  have startup : (startupLines song.name song.startup).flatMap String.toList =
      (song.startup.toList.flatMap fun bytes =>
        (startupArray song.name bytes).written "const uint8_t " ++ [[]]).flatMap (· ++ ['\n']) := by
    cases song.startup with
    | none => rfl
    | some bytes =>
        have opening : s!"const uint8_t {song.name}_init_state" =
            "const uint8_t " ++ startupName song.name := by
          simp only [startupName, String.append_assoc]
          rfl
        rw [startupLines, opening, toList_sourceArray, Option.toList_some, List.flatMap_singleton]
        rfl
  rw [source, String.toList_join, sourceLines, textLines]
  simp only [List.flatMap_append, front, patterns, startup, toList_tableLines]

theorem newline_not_mem_rowLine (bytes : List UInt8) : '\n' ∉ rowLine bytes := by
  have digits : ∀ n < 16, Text.Hexadecimal.digit n ≠ '\n' := by decide
  have item (b : UInt8) : '\n' ∉ (sourceItem b).toList := by
    have high := digits (b.toNat / 16) (by have := b.toNat_lt; omega)
    have low := digits (b.toNat % 16) (by omega)
    simp [sourceItem, Text.Hexadecimal.byte, Text.Hexadecimal.byteDigits, high.symm, low.symm]
  intro member
  rcases List.mem_append.1 member with blank | inItem
  · exact absurd blank (by decide)
  · obtain ⟨b, -, here⟩ := List.mem_flatMap.1 inItem
    exact item b here

theorem newline_not_mem_elementLine {element : String} (h : IsIdentifier element) :
    '\n' ∉ elementLine element := by
  have inElement : '\n' ∉ element.toList := h.not_mem (by decide)
  simp [elementLine, indent, inElement]

theorem newline_not_mem_written {front : String} {d : Declaration}
    (identifier : IsIdentifier d.name)
    (inFront : '\n' ∉ front.toList) (inBody : ∀ line ∈ d.body, '\n' ∉ line) :
    ∀ line ∈ d.written front, '\n' ∉ line := by
  have inName : '\n' ∉ d.name.toList := identifier.not_mem (by decide)
  intro line member
  rw [Declaration.written, List.mem_cons, List.mem_append, List.mem_singleton] at member
  rcases member with rfl | inside | rfl
  · simp [brackets, inFront, inName]
  · exact inBody line inside
  · decide

theorem isIdentifier_of_mem_tableElements {song : Song} (h : IsIdentifier song.name)
    {element : String} (member : element ∈ song.tableElements) : IsIdentifier element := by
  rcases List.mem_cons.1 member with rfl | order
  · split
    · exact h.startupName
    · decide
  · obtain ⟨index, -, rfl⟩ := List.mem_map.1 order
    exact h.patternName index

theorem newline_not_mem_textLines {song : Song} (h : IsIdentifier song.name) :
    ∀ line ∈ textLines song, '\n' ∉ line := by
  have inPrologue : ∀ text ∈ prologue, '\n' ∉ text.toList.dropLast := by decide
  have inTable : ∀ line ∈ (tableArray song).body, '\n' ∉ line := by
    intro line member
    rcases List.mem_append.1 member with inElements | last
    · obtain ⟨element, inTable, rfl⟩ := List.mem_map.1 inElements
      exact newline_not_mem_elementLine (isIdentifier_of_mem_tableElements h inTable)
    · rw [List.mem_singleton.1 last]
      decide
  intro line member
  simp only [textLines, List.mem_append, List.mem_map, List.mem_flatMap,
    List.mem_singleton] at member
  rcases member with ((⟨text, inText, rfl⟩ | ⟨p, -, inArray | rfl⟩) | ⟨bytes, -, inArray | rfl⟩) |
    inArray
  · exact inPrologue text inText
  · refine newline_not_mem_written (h.patternName p.index) (by decide) ?_ line inArray
    intro row inBody
    obtain ⟨bytes, -, rfl⟩ := List.mem_map.1 inBody
    exact newline_not_mem_rowLine bytes
  · exact List.not_mem_nil
  · refine newline_not_mem_written h.startupName (by decide) ?_ line inArray
    intro row inBody
    rw [List.mem_singleton.1 inBody]
    exact newline_not_mem_rowLine bytes
  · exact List.not_mem_nil
  · exact newline_not_mem_written h (by decide) inTable line inArray

theorem linesOf_source {song : Song} (h : IsIdentifier song.name) :
    linesOf song.source = textLines song ++ [[]] := by
  have whole := splitOn_ended (newline_not_mem_textLines h) List.not_mem_nil
  rw [List.append_nil] at whole
  rw [linesOf, toList_source, whole]

/-- Arrays that are written one after another are read one after another. -/
theorem declarationsIn_flatMap {α : Type} {front : String} {array : α → Declaration}
    {items : List α} {rest : List (List Char)} (read : ∀ item rest,
      declarationsIn ((array item).written front ++ rest) = array item :: declarationsIn rest) :
    declarationsIn (items.flatMap (fun item => (array item).written front ++ [[]]) ++ rest) =
      items.map array ++ declarationsIn rest := by
  induction items with
  | nil => rfl
  | cons item items ih =>
      have emptyLine (rest : List (List Char)) :
          declarationsIn ([] :: rest) = declarationsIn rest := rfl
      rw [List.flatMap_cons, List.append_assoc, List.append_assoc, read, List.singleton_append,
        emptyLine, ih]
      rfl

/-- A song is read back as its arrays of bytes with the table behind them. -/
theorem declarations_source {song : Song} (h : IsIdentifier song.name) :
    declarations song.source = byteArrays song ++ [tableArray song] := by
  have inPrologue : ∀ line ∈ prologue.map fun text => text.toList.dropLast,
      opening? line = none := by decide
  have patterns (p : Pattern) (rest : List (List Char)) :
      declarationsIn ((patternArray song.name p).written "static const uint8_t " ++ rest) =
        patternArray song.name p :: declarationsIn rest := by
    apply declarationsIn_written
    · exact (opening?_static _).trans (declarator?_bytes (h.patternName p.index))
    · intro line inBody
      obtain ⟨bytes, -, rfl⟩ := List.mem_map.1 inBody
      exact ⟨_, rfl⟩
  have startup (bytes : List UInt8) (rest : List (List Char)) :
      declarationsIn ((startupArray song.name bytes).written "const uint8_t " ++ rest) =
        startupArray song.name bytes :: declarationsIn rest := by
    apply declarationsIn_written
    · exact (opening?_shared _).trans (declarator?_bytes h.startupName)
    · intro line inBody
      rw [List.mem_singleton.1 inBody]
      exact ⟨_, rfl⟩
  have table (rest : List (List Char)) :
      declarationsIn ((tableArray song).written "const uint8_t *" ++ rest) =
        tableArray song :: declarationsIn rest := by
    apply declarationsIn_written
    · have star : "const uint8_t *".toList = "const uint8_t ".toList ++ ['*'] := by decide
      rw [star, List.append_assoc, opening?_shared]
      exact declarator?_pointers h
    · intro line inBody
      rcases List.mem_append.1 inBody with inElements | last
      · obtain ⟨element, -, rfl⟩ := List.mem_map.1 inElements
        exact ⟨_, rfl⟩
      · rw [List.mem_singleton.1 last]
        exact ⟨_, rfl⟩
  rw [declarations, linesOf_source h, textLines, List.append_assoc, List.append_assoc,
    List.append_assoc, declarationsIn_append inPrologue, declarationsIn_flatMap patterns,
    declarationsIn_flatMap startup, table, byteArrays, List.append_assoc]
  rfl

/-- The elements of the table are read back. -/
theorem elements_tableArray {song : Song} (h : IsIdentifier song.name) :
    (tableArray song).elements = tableElements song ++ ["NULL"] := by
  have identifiers : ∀ element ∈ tableElements song, IsIdentifier element := fun _ member =>
    isIdentifier_of_mem_tableElements h member
  have line : ∀ element ∈ tableElements song,
      (elementLine element).filter (· ≠ ' ') = element.toList ++ [','] := by
    intro element member
    have solid : element.toList.filter (· ≠ ' ') = element.toList := by
      rw [List.filter_eq_self]
      intro c inElement
      rw [decide_eq_true_eq]
      rintro rfl
      exact (identifiers element member).not_mem (by decide) inElement
    rw [elementLine, List.filter_append, List.filter_append, solid]
    rfl
  have text : (tableArray song).body.flatten.filter (· ≠ ' ') =
      ((tableElements song).map String.toList).flatMap (· ++ [',']) ++ "NULL".toList := by
    rw [tableArray, List.flatten_append, List.filter_append, List.filter_flatten, List.map_map,
      List.flatMap_map]
    congr 1
    rw [List.flatMap_def]
    congr 1
    exact List.map_congr_left line
  have noComma : ∀ part ∈ (tableElements song).map String.toList, ',' ∉ part := by
    intro part member
    obtain ⟨element, inTable, rfl⟩ := List.mem_map.1 member
    exact (identifiers element inTable).not_mem (by decide)
  have spelled : (tableElements song).map (String.ofList ∘ String.toList) = tableElements song :=
    List.map_id'' (fun _ => String.ofList_toList) _
  rw [Declaration.elements, text, splitOn_ended noComma (by decide), List.map_append, List.map_map,
    spelled]
  rfl

end Chiptune.Song

import Chiptune.Proofs.Legality
import Chiptune.Song.View
import Mathlib.Algebra.GroupWithZero.Nat

/-!
# Songs rebuilt from their views

A view lists the commands of each row field by field and leaves out those that do
nothing. What it cannot show is a nibble of the shared byte that belongs to no
field: a command is written back from its fields exactly if such nibbles are
zero. Compiled songs have no others, so their views can be turned into the songs
again. An arbitrary song has no view if one of its rows is not four commands, and
the first such row tells why.
-/

namespace Chiptune

open Bytecode

namespace Bytecode

theorem Opcode.code_of_ofCode? {opcode : Opcode} : ∀ {code : UInt8},
    Opcode.ofCode? code = some opcode → opcode.code = code := by
  have table : ∀ code : UInt8, ∀ opcode ∈ Opcode.ofCode? code, opcode.code = code :=
    forall_byte (by decide +kernel)
  intro code
  exact table code opcode

namespace View

/-- The nibbles of a byte, put together again. -/
theorem join_nibbles : ∀ shared : UInt8, (shared >>> 4) <<< 4 ||| shared &&& 0x0F = shared :=
  forall_byte (by decide +kernel)

theorem high_nibble_eq_iff : ∀ shared : UInt8,
    (shared >>> 4) <<< 4 = shared ↔ shared &&& 0x0F = 0 :=
  forall_byte (by decide +kernel)

theorem low_nibble_eq_iff : ∀ shared : UInt8, shared &&& 0x0F = shared ↔ shared >>> 4 = 0 :=
  forall_byte (by decide +kernel)

/-- The shared byte is written back from the fields in it exactly if nothing else
is in it. -/
theorem sharedByte_eq_iff {shared : UInt8} {instrument : Bool} {action : Option Action}
    (code : ∀ a ∈ action, a.opcode.code = shared &&& 0x0F)
    (present : (instrument || action.isSome) = true) :
    Command.sharedByte (if instrument then some (shared >>> 4) else none) action = [shared] ↔
      (instrument = false → shared >>> 4 = 0) ∧ (action.isSome = false → shared &&& 0x0F = 0) := by
  cases instrument with
  | true =>
      cases action with
      | none => simp [Command.sharedByte, high_nibble_eq_iff]
      | some a => simp [Command.sharedByte, code a rfl, join_nibbles]
  | false =>
      cases action with
      | none => cases present
      | some a => simp [Command.sharedByte, code a rfl, low_nibble_eq_iff]

/-- The effect of a command is numbered by its shared byte and has its parameter. -/
theorem effectOf_eq_ok {shared param : Option UInt8} {action : Option Action}
    (h : effectOf shared param = .ok action) :
    action.map Action.param = param ∧ ∀ a ∈ action, a.opcode.code = shared.getD 0 &&& 0x0F := by
  cases param with
  | none =>
      cases h
      exact ⟨rfl, by simp⟩
  | some p =>
      obtain ⟨a, known, rfl⟩ := map_eq_ok_iff.1 h
      rw [actionOf] at known
      split at known
      · cases known
      · rename_i opcode numbered
        cases known
        refine ⟨rfl, ?_⟩
        intro a same
        cases same
        exact Opcode.code_of_ofCode? numbered

theorem toBytes_ofParts (channel : Nat) (header : UInt8) (lead shared : Option UInt8)
    (action : Option Action) : (ofParts channel header lead shared action).toBytes =
      header :: (lead.toList ++ (Command.sharedByte (if hasInstrument header then
        some (shared.getD 0 >>> 4) else none) action ++ (action.map Action.param).toList)) := by
  have front : (ofParts channel header lead shared action).kit.or
      (ofParts channel header lead shared action).note = lead := by
    by_cases kit : channel = kitChannel <;> simp [ofParts, kit]
  rw [toBytes, front, List.append_assoc]
  rfl

/-- A command that is read consists of the fields that its header announces. -/
theorem exists_parts {bytes : List UInt8} {channel : Nat} {v : View} (command : IsCommand bytes)
    (h : decode channel bytes = .ok v) : ∃ header lead shared param action,
      bytes = header :: (lead.toList ++ (shared.toList ++ param.toList)) ∧
      hasLead header = lead.isSome ∧ (hasInstrument header || hasEffect header) = shared.isSome ∧
      hasEffect header = param.isSome ∧ effectOf shared param = .ok action ∧
      v = ofParts channel header lead shared action := by
  obtain ⟨length, -⟩ := command
  obtain ⟨lead, shared, param, rfl, hl, hs, hp⟩ := exists_fields (lengthTable_eq_some_iff.1 length)
  rw [decode_parts hl hs hp] at h
  obtain ⟨action, effect, same⟩ := bind_eq_ok_iff.1 h
  exact ⟨_, lead, shared, param, action, rfl, hl, hs, hp, effect, (Except.ok.inj same).symm⟩

/-- A command is written back from what it shows exactly if its unused nibbles are
zero. -/
theorem toBytes_eq_iff {bytes : List UInt8} {channel : Nat} {v : View} (command : IsCommand bytes)
    (h : decode channel bytes = .ok v) : v.toBytes = bytes ↔ UnusedNibblesZero bytes := by
  obtain ⟨header, lead, shared, param, action, rfl, hl, hs, hp, effect, rfl⟩ :=
    exists_parts command h
  obtain ⟨rfl, code⟩ := effectOf_eq_ok effect
  have hasAction : hasEffect header = action.isSome := hp.trans Option.isSome_map
  rw [toBytes_ofParts, List.cons.injEq, List.append_cancel_left_eq, List.append_cancel_right_eq,
    and_iff_right rfl, UnusedNibblesZero]
  cases shared with
  | none =>
      rw [hasAction, Option.isSome_none, Bool.or_eq_false_iff] at hs
      obtain ⟨noInstrument, noAction⟩ := hs
      rw [Option.isSome_eq_false_iff, Option.isNone_iff_eq_none] at noAction
      subst noAction
      refine iff_of_true (by simp [noInstrument, Command.sharedByte]) ?_
      intro shared found
      rw [sharedOf, hl] at found
      cases lead <;> cases found
  | some shared =>
      have present := hs
      rw [hasAction] at present
      rw [sharedOf_fields hl rfl, hasAction]
      simp only [Option.toList_some, Option.getD_some, Option.mem_def, Option.some.injEq,
        forall_eq']
      exact sharedByte_eq_iff code present

theorem channel_of_decode {bytes : List UInt8} {channel : Nat} {v : View}
    (command : IsCommand bytes) (h : decode channel bytes = .ok v) :
    v.channel = channel ∧ bytes.head? = some v.header := by
  obtain ⟨header, lead, shared, param, action, rfl, -, -, -, -, rfl⟩ := exists_parts command h
  exact ⟨rfl, rfl⟩

end View

/-- A command that does nothing is a single zero. -/
theorem IsCommand.eq_zero {bytes : List UInt8} (h : IsCommand bytes)
    (header : bytes.head? = some 0) : bytes = [0] := by
  obtain ⟨length, -⟩ := h
  cases header
  have alone : commandLength 0 = 1 := rfl
  have length := lengthTable_eq_some_iff.1 length
  rw [alone] at length
  rw [List.length_eq_zero_iff.1 (Nat.succ.inj length).symm]

/-- The row is four commands, and no nibble of a shared byte is lost when they are
read. -/
def Canonical (row : List UInt8) : Prop :=
  ∃ pieces, Splits row pieces ∧ ∀ c, UnusedNibblesZero (pieces.get c)

end Bytecode

theorem LegalRow.canonical {row : List UInt8} (h : LegalRow row) : Canonical row := by
  obtain ⟨pieces, views, splits, -, legal⟩ := h
  exact ⟨pieces, splits, fun c => (legal c).2.nibbles⟩

namespace RowView

/-- The bytes of a row: each listed command is written from its fields, and a
channel that is not listed has a command that does nothing. -/
def toBytes (r : RowView) : List UInt8 :=
  Channel.all.flatMap fun c =>
    match r.commands.find? (·.channel = c.number) with
    | some v => v.toBytes
    | none => [0]

/-- A channel is listed unless its command does nothing. -/
theorem find?_listed {views : PerChannel View}
    (numbered : ∀ c, (views.get c).channel = c.number) (c : Channel) :
    (views.toList.filter (!·.isRest)).find? (·.channel = c.number) =
      if (views.get c).isRest then none else some (views.get c) := by
  have h₁ := numbered .pulse1
  have h₂ := numbered .pulse2
  have h₃ := numbered .wave
  have h₄ := numbered .noise
  simp only [PerChannel.get, Channel.number] at h₁ h₂ h₃ h₄
  rw [List.find?_filter]
  cases c <;> simp [PerChannel.toList, PerChannel.get, List.find?_cons, h₁, h₂, h₃, h₄,
    Channel.number] <;> split <;> simp_all

theorem toBytes_of_splits {row : List UInt8} {pieces : PerChannel (List UInt8)}
    {views : PerChannel View} (splits : Splits row pieces)
    (decoded : ∀ c, View.decode c.number (pieces.get c) = .ok (views.get c))
    (clean : ∀ c, UnusedNibblesZero (pieces.get c)) (number : Nat) :
    toBytes ⟨number, views.toList.filter (!·.isRest)⟩ = row := by
  have numbered : ∀ c, (views.get c).channel = c.number := by
    intro c
    exact (View.channel_of_decode (splits.command c) (decoded c)).1
  have piece : ∀ c, (match (views.toList.filter (!·.isRest)).find? (·.channel = c.number) with
      | some v => v.toBytes
      | none => [0]) = pieces.get c := by
    intro c
    have front := (View.channel_of_decode (splits.command c) (decoded c)).2
    rw [find?_listed numbered]
    by_cases rest : (views.get c).isRest = true
    · rw [if_pos rest]
      rw [View.isRest, beq_iff_eq] at rest
      rw [rest] at front
      exact ((splits.command c).eq_zero front).symm
    · rw [if_neg rest]
      exact (View.toBytes_eq_iff (splits.command c) (decoded c)).2 (clean c)
  rw [toBytes]
  simp only [piece]
  rw [splits.concat]
  simp [Channel.all, PerChannel.get]

theorem exists_ofBytes_iff {number : Nat} {row : List UInt8} :
    (∃ r, ofBytes number row = .ok r) ↔ ∃ views, decodeRow row = .ok views :=
  exists_map_eq_ok_iff

theorem ofBytes_eq_error_iff {number : Nat} {row : List UInt8} {cause : Malformed} :
    ofBytes number row = .error cause ↔ decodeRow row = .error cause :=
  map_eq_error_iff

theorem toBytes_ofBytes {number : Nat} {row : List UInt8} (canonical : Canonical row)
    {r : RowView} (h : ofBytes number row = .ok r) : r.toBytes = row := by
  obtain ⟨pieces, splits, clean⟩ := canonical
  obtain ⟨views, decoded, rfl⟩ := map_eq_ok_iff.1 h
  obtain ⟨pieces', splits', decoded⟩ := decodeRow_eq_ok_iff.1 decoded
  have same := splits.unique splits'
  subst same
  exact toBytes_of_splits splits decoded clean number

end RowView

namespace PatternView

variable {p : Song.Pattern} {view : PatternView}

def toPattern (view : PatternView) : Song.Pattern := ⟨view.index, view.rows.map RowView.toBytes⟩

theorem toPattern_ofPattern (canonical : ∀ row ∈ p.rows, Canonical row)
    (h : ofPattern p = .ok view) : view.toPattern = p := by
  obtain ⟨rows, read, rfl⟩ := map_eq_ok_iff.1 h
  have rebuilt : rows.map RowView.toBytes = p.rows.zipIdx.map Prod.fst := by
    apply map_eq_map_of_mapM read
    intro entry member r shown
    have row : entry.1 ∈ p.rows := List.fst_mem_of_mem_zipIdx member
    exact RowView.toBytes_ofBytes (canonical _ row) shown
  rw [toPattern, rebuilt, List.zipIdx_map_fst]

theorem size_of_ofPattern (h : ofPattern p = .ok view) : view.size = p.size := by
  obtain ⟨rows, -, rfl⟩ := map_eq_ok_iff.1 h
  rfl

theorem exists_ofPattern_iff :
    (∃ view, ofPattern p = .ok view) ↔ ∀ row ∈ p.rows, ∃ views, decodeRow row = .ok views := by
  rw [ofPattern, exists_map_eq_ok_iff, exists_mapM_eq_ok_iff]
  simp only [RowView.exists_ofBytes_iff]
  constructor
  · intro h row member
    rw [← List.zipIdx_map_fst 0 p.rows] at member
    obtain ⟨entry, inside, rfl⟩ := List.mem_map.1 member
    exact h entry inside
  · intro h entry inside
    exact h _ (List.fst_mem_of_mem_zipIdx inside)

/-- A pattern has no view because of its first row that cannot be read. -/
theorem ofPattern_eq_error_iff {cause : Malformed} :
    ofPattern p = .error cause ↔ ∃ (r : Nat) (_ : r < p.rows.length),
      (∀ (r' : Nat) (_ : r' < r), ∃ views, decodeRow p.rows[r'] = .ok views) ∧
        decodeRow p.rows[r] = .error cause := by
  rw [ofPattern, map_eq_error_iff, mapM_eq_error_iff]
  simp only [RowView.exists_ofBytes_iff, RowView.ofBytes_eq_error_iff, List.getElem_zipIdx,
    List.length_zipIdx]

end PatternView

namespace SongView

variable {song : Song} {options : Options} {view : SongView}

def toSong (view : SongView) : Song :=
  ⟨view.name, view.patterns.map PatternView.toPattern, view.startup, view.orders⟩

theorem toSong_ofSong (canonical : ∀ p ∈ song.patterns, ∀ row ∈ p.rows, Canonical row)
    (h : ofSong song options = .ok view) : view.toSong = song := by
  obtain ⟨patterns, read, rfl⟩ := map_eq_ok_iff.1 h
  have rebuilt : patterns.map PatternView.toPattern = song.patterns.map id := by
    apply map_eq_map_of_mapM read
    intro p member pattern shown
    exact PatternView.toPattern_ofPattern (canonical p member) shown
  rw [toSong, rebuilt, List.map_id]

theorem sizes_of_ofSong (h : ofSong song options = .ok view) :
    view.patterns.map (·.size) = song.patterns.map (·.size) := by
  obtain ⟨patterns, read, rfl⟩ := map_eq_ok_iff.1 h
  apply map_eq_map_of_mapM read
  intro p _ pattern shown
  exact PatternView.size_of_ofPattern shown

/-- The size of a pattern in a view is that of the rows that the view shows. -/
theorem size_of_mem (canonical : ∀ p ∈ song.patterns, ∀ row ∈ p.rows, Canonical row)
    (h : ofSong song options = .ok view) {p : PatternView} (member : p ∈ view.patterns) :
    p.size = (p.rows.map fun r => r.toBytes.length).sum := by
  have same : view.patterns.map (·.size) = view.patterns.map (·.toPattern.size) := by
    rw [sizes_of_ofSong h, ← toSong_ofSong canonical h, toSong, List.map_map]
    rfl
  have size : p.size = p.toPattern.size := List.map_inj_left.1 same p member
  rw [size, PatternView.toPattern, Song.Pattern.size, List.length_flatten, List.map_map]
  rfl

theorem exists_ofSong_iff : (∃ view, ofSong song options = .ok view) ↔
    ∀ p ∈ song.patterns, ∀ row ∈ p.rows, ∃ views, decodeRow row = .ok views := by
  rw [ofSong, exists_map_eq_ok_iff, exists_mapM_eq_ok_iff]
  simp only [PatternView.exists_ofPattern_iff]

end SongView

namespace Song

/-- A song is compiled from some module. -/
def IsCompiled (song : Song) : Prop :=
  ∃ o format image name, (compile o format image name).outcome = .ok song

theorem IsCompiled.canonical {song : Song} (h : song.IsCompiled) :
    ∀ p ∈ song.patterns, ∀ row ∈ p.rows, Canonical row := by
  obtain ⟨o, format, image, name, compiled⟩ := h
  have legal : ∀ p ∈ song.patterns, ∀ row ∈ p.rows, LegalRow row := by
    cases format with
    | screamTracker =>
        obtain ⟨tune, -, compiled⟩ := ScreamTracker.compile_eq_ok_iff_tune.1 compiled
        exact tune.legalRow_of_compile compiled
    | protracker =>
        obtain ⟨tune, -, compiled⟩ := Protracker.compile_eq_ok_iff_tune.1 compiled
        exact tune.legalRow_of_compile compiled
  exact fun p member row inside => (legal p member row inside).canonical

theorem patternBytes_eq_sum (song : Song) :
    song.patternBytes = (song.patterns.map (·.size)).sum := by
  rw [patternBytes, List.length_flatMap]
  rfl

/-- The first row of a song, pattern by pattern, that is not four commands. -/
def FirstUnreadable (song : Song) (cause : Malformed) : Prop :=
  ∃ (k : Nat) (_ : k < song.patterns.length) (r : Nat) (_ : r < song.patterns[k].rows.length),
    decodeRow song.patterns[k].rows[r] = .error cause ∧
    (∀ (r' : Nat) (_ : r' < r), ∃ views, decodeRow song.patterns[k].rows[r'] = .ok views) ∧
    ∀ (k' : Nat) (_ : k' < k), ∀ row ∈ song.patterns[k'].rows,
      ∃ views, decodeRow row = .ok views

theorem ofSong_eq_error_iff {song : Song} {options : Options} {cause : Malformed} :
    SongView.ofSong song options = .error cause ↔ song.FirstUnreadable cause := by
  rw [SongView.ofSong, map_eq_error_iff, mapM_eq_error_iff]
  simp only [PatternView.exists_ofPattern_iff, PatternView.ofPattern_eq_error_iff]
  constructor
  · intro h
    obtain ⟨k, inside, before, r, within, earlier, unreadable⟩ := h
    exact ⟨k, inside, r, within, unreadable, earlier, before⟩
  · intro h
    obtain ⟨k, inside, r, within, unreadable, earlier, before⟩ := h
    exact ⟨k, inside, before, r, within, earlier, unreadable⟩

end Song

/-- A compiled song has a view, whatever options it is shown with, and is the only
one with this view: it is what the listed commands say. A song that was not
compiled has a view unless it has a row that cannot be read, and then it is
refused for the first such row. -/
theorem view_shows_whole_song (song : Song) (options : Options) :
    (song.IsCompiled → ∃ view, SongView.ofSong song options = .ok view ∧ view.toSong = song ∧
      (∀ p ∈ view.patterns, p.size = (p.rows.map fun r => r.toBytes.length).sum) ∧
      (view.patterns.map (·.size)).sum = song.patternBytes ∧
      ∀ song' options', song'.IsCompiled → SongView.ofSong song' options' = .ok view →
        song' = song) ∧
    ((∃ cause, SongView.ofSong song options = .error cause) ↔
      ∃ p ∈ song.patterns, ∃ row ∈ p.rows, ¬ ∃ views, decodeRow row = .ok views) ∧
    ∀ cause, SongView.ofSong song options = .error cause ↔ song.FirstUnreadable cause := by
  refine ⟨?_, ?_, fun cause => Song.ofSong_eq_error_iff⟩
  · intro compiled
    have canonical := compiled.canonical
    have readable : ∀ p ∈ song.patterns, ∀ row ∈ p.rows, ∃ views, decodeRow row = .ok views := by
      intro p member row inside
      obtain ⟨pieces, splits, -⟩ := canonical p member row inside
      exact exists_decodeRow_iff.2 ⟨pieces, splits⟩
    obtain ⟨view, shown⟩ := SongView.exists_ofSong_iff.2 readable
    have rebuilt := SongView.toSong_ofSong canonical shown
    refine ⟨view, shown, rebuilt, ?_, ?_, ?_⟩
    · intro p member
      exact SongView.size_of_mem canonical shown member
    · rw [SongView.sizes_of_ofSong shown, Song.patternBytes_eq_sum]
    · intro song' options' compiled' shown'
      rw [← rebuilt, ← SongView.toSong_ofSong compiled'.canonical shown']
  · rw [exists_error_iff, SongView.exists_ofSong_iff]
    simp only [not_forall, exists_prop]

/-- A pattern of two rows: a silent one, and one in which the wave channel alone
has something to do, an arpeggio. -/
def sparseRows : Image := ScreamTracker.onePatternImage [0, 0x82, 10, 0x37, 0]

theorem sparseRows_view_shows_whole_song :
    ∃ song : Song, song.patterns = [⟨0, [[0, 0, 0, 0], [0, 0, 0x40, 0x01, 0x37, 0]]⟩] ∧
      song.IsCompiled ∧ ∃ view, SongView.ofSong song {} = .ok view ∧ view.toSong = song := by
  have compiled : (compile {} .screamTracker sparseRows "short").outcome = .ok
      { name := "short"
        patterns := [⟨0, [[0, 0, 0, 0], [0, 0, 0x40, 0x01, 0x37, 0]]⟩]
        startup := some [1, 6, 2, 0x11, 0x22, 0x44, 0x88, 0]
        orders := [0] } := by decide +kernel
  have isCompiled : Song.IsCompiled _ := ⟨_, _, _, _, compiled⟩
  obtain ⟨view, shown, rebuilt, -⟩ := (view_shows_whole_song _ {}).1 isCompiled
  exact ⟨_, rfl, isCompiled, view, shown, rebuilt⟩

end Chiptune

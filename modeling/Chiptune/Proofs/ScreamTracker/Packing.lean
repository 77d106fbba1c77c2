import Chiptune.Proofs.Image
import Chiptune.ScreamTracker.Pattern
import Mathlib.Data.List.FinRange

/-!
# The grammar of packed patterns

A packed stream is a run of packed cells and nothing else. Reading one cell
accepts exactly a packed cell with any bytes behind it (`takeCell_eq_ok_iff`);
reading a stream therefore accepts exactly the packings, and gives back the
cells that were packed (`unpack_eq_ok_iff`). A stream that is refused is a run
of cells with something behind it that no cell starts with: a header whose
channel the player does not have, or a cell that the end cuts short.
-/

namespace Chiptune.ScreamTracker

namespace Cell

/-- The bytes behind the header of a cell. -/
def fieldBytes (cell : Cell) : List UInt8 :=
  (cell.note.elim [] fun column => [column.note, column.instrument]) ++
    cell.volume.toList ++
    cell.effect.elim [] fun effect => [effect.command, effect.param]

theorem pack_eq (cell : Cell) : cell.pack = cell.header :: cell.fieldBytes := rfl

/-- A header byte is its channel number with the bits of the fields it announces. -/
theorem header_bits (b : UInt8) :
    (b &&& channelMask) ||| (if b &&& noteFlag != 0 then noteFlag else 0) |||
      (if b &&& volumeFlag != 0 then volumeFlag else 0) |||
      (if b &&& effectFlag != 0 then effectFlag else 0) = b := by
  revert b
  apply forall_byte
  decide +kernel

def headerFor (c : Channel) (note volume effect : Bool) : UInt8 :=
  UInt8.ofNat c.index ||| (if note then noteFlag else 0) ||| (if volume then volumeFlag else 0) |||
    (if effect then effectFlag else 0)

theorem header_eq_headerFor (cell : Cell) : cell.header =
    headerFor cell.channel cell.note.isSome cell.volume.isSome cell.effect.isSome := rfl

theorem headerFor_bits (c : Channel) (note volume effect : Bool) :
    (headerFor c note volume effect &&& channelMask).toNat = c.index ∧
      (headerFor c note volume effect &&& noteFlag != 0) = note ∧
      (headerFor c note volume effect &&& volumeFlag != 0) = volume ∧
      (headerFor c note volume effect &&& effectFlag != 0) = effect := by
  cases c <;> cases note <;> cases volume <;> cases effect <;> decide

theorem header_channel (cell : Cell) :
    (cell.header &&& channelMask).toNat = cell.channel.index :=
  (headerFor_bits _ _ _ _).1

theorem header_note (cell : Cell) : (cell.header &&& noteFlag != 0) = cell.note.isSome :=
  (headerFor_bits _ _ _ _).2.1

theorem header_volume (cell : Cell) : (cell.header &&& volumeFlag != 0) = cell.volume.isSome :=
  (headerFor_bits _ _ _ _).2.2.1

theorem header_effect (cell : Cell) : (cell.header &&& effectFlag != 0) = cell.effect.isSome :=
  (headerFor_bits _ _ _ _).2.2.2

theorem header_eq {cell : Cell} {b : UInt8} (hc : (b &&& channelMask).toNat = cell.channel.index)
    (hn : (b &&& noteFlag != 0) = cell.note.isSome)
    (hv : (b &&& volumeFlag != 0) = cell.volume.isSome)
    (he : (b &&& effectFlag != 0) = cell.effect.isSome) : cell.header = b := by
  have channel : b &&& channelMask = UInt8.ofNat cell.channel.index := by
    rw [← hc, UInt8.ofNat_toNat]
  calc
    cell.header = (b &&& channelMask) ||| (if b &&& noteFlag != 0 then noteFlag else 0) |||
        (if b &&& volumeFlag != 0 then volumeFlag else 0) |||
        (if b &&& effectFlag != 0 then effectFlag else 0) := by
      rw [channel, hn, hv, he]
      rfl
    _ = b := header_bits b

/-- Only the end of a row has the header zero. -/
theorem header_eq_zero_iff (cell : Cell) : cell.header = 0 ↔ cell.isEndOfRow = true := by
  have table : ∀ (c : Channel) (note volume effect : Bool), headerFor c note volume effect = 0 ↔
      c = .pulse1 ∧ note = false ∧ volume = false ∧ effect = false := by
    intro c note volume effect
    cases c <;> cases note <;> cases volume <;> cases effect <;> decide
  rw [header_eq_headerFor, table]
  obtain ⟨channel, note, volume, effect⟩ := cell
  simp [isEndOfRow, endOfRow]

end Cell

namespace Pattern

theorem takeNote_eq_some_iff {present : Bool} {bytes rest : List UInt8}
    {note : Option NoteColumn} :
    takeNote present bytes = some (note, rest) ↔ present = note.isSome ∧
      bytes = (note.elim [] fun column => [column.note, column.instrument]) ++ rest := by
  constructor
  · intro h
    unfold takeNote at h
    split at h
    · cases h
      exact ⟨rfl, rfl⟩
    · cases h
      exact ⟨rfl, rfl⟩
    · cases h
  · intro h
    obtain ⟨rfl, rfl⟩ := h
    cases note <;> rfl

theorem takeVolume_eq_some_iff {present : Bool} {bytes rest : List UInt8}
    {volume : Option UInt8} :
    takeVolume present bytes = some (volume, rest) ↔
      present = volume.isSome ∧ bytes = volume.toList ++ rest := by
  constructor
  · intro h
    unfold takeVolume at h
    split at h
    · cases h
      exact ⟨rfl, rfl⟩
    · cases h
      exact ⟨rfl, rfl⟩
    · cases h
  · intro h
    obtain ⟨rfl, rfl⟩ := h
    cases volume <;> rfl

theorem takeEffect_eq_some_iff {present : Bool} {bytes rest : List UInt8}
    {effect : Option Effect} :
    takeEffect present bytes = some (effect, rest) ↔ present = effect.isSome ∧
      bytes = (effect.elim [] fun effect => [effect.command, effect.param]) ++ rest := by
  constructor
  · intro h
    unfold takeEffect at h
    split at h
    · cases h
      exact ⟨rfl, rfl⟩
    · cases h
      exact ⟨rfl, rfl⟩
    · cases h
  · intro h
    obtain ⟨rfl, rfl⟩ := h
    cases effect <;> rfl

/-- The fields that a header announces are those of a cell with this header. -/
theorem takeFields_eq_some_iff {channel : Channel} {header : UInt8} {bytes rest : List UInt8}
    {cell : Cell} (hc : (header &&& Cell.channelMask).toNat = channel.index) :
    takeFields channel header bytes = some (cell, rest) ↔
      cell.channel = channel ∧ header = cell.header ∧ bytes = cell.fieldBytes ++ rest := by
  simp only [takeFields, Option.bind_eq_bind, Option.bind_eq_some_iff, Option.pure_def,
    Option.some.injEq, Prod.exists, Prod.mk.injEq, takeNote_eq_some_iff, takeVolume_eq_some_iff,
    takeEffect_eq_some_iff]
  constructor
  · intro h
    obtain ⟨note, _, ⟨hn, rfl⟩, volume, _, ⟨hv, rfl⟩, effect, _, ⟨he, rfl⟩, rfl, rfl⟩ := h
    exact ⟨rfl, (Cell.header_eq hc hn hv he).symm, by simp [Cell.fieldBytes]⟩
  · intro h
    obtain ⟨rfl, rfl, rfl⟩ := h
    exact ⟨cell.note, _, ⟨cell.header_note, by simp [Cell.fieldBytes]⟩, cell.volume, _,
      ⟨cell.header_volume, rfl⟩, cell.effect, _, ⟨cell.header_effect, rfl⟩, rfl, rfl⟩

theorem index_eq_of_ofIndex? {n : Nat} {c : Channel} (h : Channel.ofIndex? n = some c) :
    n = c.index := by
  match n with
  | 0 | 1 | 2 | 3 => cases h; rfl
  | n + 4 => simp [Channel.ofIndex?] at h

/-- Reading a cell accepts exactly the packed cells, whatever comes behind them. -/
theorem takeCell_eq_ok_iff {size : Nat} {header : UInt8} {bytes rest : List UInt8} {cell : Cell} :
    takeCell size header bytes = .ok (cell, rest) ↔ header :: bytes = cell.pack ++ rest := by
  rw [Cell.pack_eq, List.cons_append, List.cons.injEq]
  constructor
  · intro h
    unfold takeCell at h
    simp only [] at h
    split at h
    · cases h
    · next channel hc =>
      split at h
      · cases h
      · next taken ht =>
        cases h
        exact ((takeFields_eq_some_iff (index_eq_of_ofIndex? hc)).1 ht).2
  · intro h
    obtain ⟨rfl, rfl⟩ := h
    have fields : takeFields cell.channel cell.header (cell.fieldBytes ++ rest) =
        some (cell, rest) :=
      (takeFields_eq_some_iff cell.header_channel).2 ⟨rfl, rfl, rfl⟩
    simp [takeCell, cell.header_channel, fields]

/-- No packing starts another one. -/
theorem pack_append_inj {cell cell' : Cell} {rest rest' : List UInt8}
    (h : cell.pack ++ rest = cell'.pack ++ rest') : cell = cell' ∧ rest = rest' := by
  have taken : takeCell 0 cell.header (cell.fieldBytes ++ rest) = .ok (cell, rest) :=
    takeCell_eq_ok_iff.2 rfl
  have taken' : takeCell 0 cell.header (cell.fieldBytes ++ rest) = .ok (cell', rest') :=
    takeCell_eq_ok_iff.2 h
  rw [taken] at taken'
  cases taken'
  exact ⟨rfl, rfl⟩

/-- Bytes at which a stream of `size` bytes is refused: a header whose channel
the player does not have, or a cell that the end of the stream cuts short. -/
inductive Stops (size : Nat) : List UInt8 → Malformed → Prop
  | channel {header : UInt8} {bytes : List UInt8} : 4 ≤ (header &&& Cell.channelMask).toNat →
      Stops size (header :: bytes) (.channelRange ((header &&& Cell.channelMask).toNat + 1))
  | cut {rest missing : List UInt8} {cell : Cell} : rest ≠ [] → missing ≠ [] →
      cell.pack = rest ++ missing → Stops size rest (.truncatedRead 1 size)

/-- How many bytes a header announces. -/
def announced (header : UInt8) : Nat :=
  2 * (header &&& Cell.noteFlag != 0).toNat + (header &&& Cell.volumeFlag != 0).toNat +
    2 * (header &&& Cell.effectFlag != 0).toNat

theorem length_fieldBytes (cell : Cell) : cell.fieldBytes.length = announced cell.header := by
  rw [announced, cell.header_note, cell.header_volume, cell.header_effect]
  obtain ⟨channel, note, volume, effect⟩ := cell
  cases note <;> cases volume <;> cases effect <;> rfl

/-- The fields can be read as soon as all announced bytes are there. -/
theorem exists_takeFields (channel : Channel) {header : UInt8} {bytes : List UInt8}
    (h : announced header ≤ bytes.length) :
    ∃ taken, takeFields channel header bytes = some taken := by
  unfold announced at h
  unfold takeFields
  generalize (header &&& Cell.noteFlag != 0) = note at h ⊢
  generalize (header &&& Cell.volumeFlag != 0) = volume at h ⊢
  generalize (header &&& Cell.effectFlag != 0) = effect at h ⊢
  cases note <;> cases volume <;> cases effect <;>
    rcases bytes with _ | ⟨b₁, _ | ⟨b₂, _ | ⟨b₃, _ | ⟨b₄, _ | ⟨b₅, bytes⟩⟩⟩⟩⟩ <;>
    simp [takeNote, takeVolume, takeEffect] at h ⊢

/-- Fewer bytes than announced are the front of some cell's fields. -/
theorem exists_missing {channel : Channel} {header : UInt8} {bytes : List UInt8}
    (hc : (header &&& Cell.channelMask).toNat = channel.index)
    (h : bytes.length < announced header) :
    ∃ (cell : Cell) (missing : List UInt8), missing ≠ [] ∧
      cell.pack = header :: bytes ++ missing := by
  let missing := List.replicate (announced header - bytes.length) (0 : UInt8)
  have length : (bytes ++ missing).length = announced header := by
    simp [missing]
    omega
  obtain ⟨⟨cell, rest⟩, taken⟩ := exists_takeFields channel (Nat.le_of_eq length.symm)
  obtain ⟨-, rfl, fields⟩ := (takeFields_eq_some_iff hc).1 taken
  have nothing : rest = [] := by
    have := congrArg List.length fields
    rw [length, List.length_append, length_fieldBytes] at this
    exact List.eq_nil_of_length_eq_zero (by omega)
  refine ⟨cell, missing, ?_, ?_⟩
  · apply List.ne_nil_of_length_pos
    simp [missing]
    omega
  · rw [Cell.pack_eq, List.cons_append, fields, nothing, List.append_nil]

/-- Reading a cell fails exactly where a stream stops being cells. -/
theorem takeCell_eq_error_iff {size : Nat} {header : UInt8} {bytes : List UInt8}
    {cause : Malformed} :
    takeCell size header bytes = .error cause ↔ Stops size (header :: bytes) cause := by
  constructor
  · intro h
    unfold takeCell at h
    simp only [] at h
    split at h
    · next hc =>
      cases h
      exact .channel (Channel.ofIndex?_eq_none_iff.1 hc)
    · next channel hc =>
      split at h
      · next none =>
        cases h
        have short : bytes.length < announced header := by
          refine Nat.lt_of_not_le fun enough => ?_
          obtain ⟨taken, some⟩ := exists_takeFields channel enough
          rw [none] at some
          cases some
        obtain ⟨cell, missing, hm, pack⟩ := exists_missing (index_eq_of_ofIndex? hc) short
        exact .cut (List.cons_ne_nil _ _) hm pack
      · cases h
  · intro h
    cases h with
    | channel hc => simp only [takeCell, Channel.ofIndex?_eq_none_iff.2 hc]
    | @cut _ missing cell _ hm pack =>
        rw [Cell.pack_eq, List.cons_append, List.cons.injEq] at pack
        obtain ⟨rfl, fields⟩ := pack
        have short : takeFields cell.channel cell.header bytes = none := by
          cases taken : takeFields cell.channel cell.header bytes with
          | none => rfl
          | some result =>
              obtain ⟨cell', rest⟩ := result
              obtain ⟨-, header, front⟩ := (takeFields_eq_some_iff cell.header_channel).1 taken
              have := congrArg List.length fields
              rw [front, List.length_append, List.length_append, length_fieldBytes,
                length_fieldBytes, header] at this
              have := List.length_pos_iff.2 hm
              omega
        simp [takeCell, cell.header_channel, short]

theorem takeCell_zero (size : Nat) (bytes : List UInt8) :
    takeCell size 0 bytes = .ok (Cell.endOfRow, bytes) :=
  takeCell_eq_ok_iff.2 rfl

/-- One step of reading: the marker needs no case of its own. -/
theorem unpackOnto_cons (size : Nat) (cells : List Cell) (header : UInt8) (bytes : List UInt8) :
    unpackOnto size cells (header :: bytes) =
      (takeCell size header bytes).bind fun taken =>
        unpackOnto size (taken.1 :: cells) taken.2 := by
  rw [unpackOnto]
  split
  · next h =>
    subst h
    rw [takeCell_zero]
    rfl
  · split
    · next h => rw [h]; rfl
    · next h => rw [h]; rfl

theorem unpackOnto_pack (size : Nat) (cells : List Cell) (cell : Cell) (rest : List UInt8) :
    unpackOnto size cells (cell.pack ++ rest) = unpackOnto size (cell :: cells) rest := by
  have taken : takeCell size cell.header (cell.fieldBytes ++ rest) = .ok (cell, rest) :=
    takeCell_eq_ok_iff.2 rfl
  rw [Cell.pack_eq, List.cons_append, unpackOnto_cons, taken]
  rfl

theorem unpackOnto_run (size : Nat) (cells run : List Cell) (rest : List UInt8) :
    unpackOnto size cells (run.flatMap Cell.pack ++ rest) =
      unpackOnto size (run.reverse ++ cells) rest := by
  induction run generalizing cells with
  | nil => rfl
  | cons cell run ih =>
      rw [List.flatMap_cons, List.append_assoc, unpackOnto_pack, ih, List.reverse_cons,
        List.append_assoc, List.singleton_append]

/-- Every stream is a run of cells, followed by nothing or by bytes that no cell
starts with. -/
theorem exists_run (size : Nat) (bytes : List UInt8) : ∃ (run : List Cell) (rest : List UInt8),
    bytes = run.flatMap Cell.pack ++ rest ∧ (rest = [] ∨ ∃ cause, Stops size rest cause) := by
  induction h : bytes.length using Nat.strongRecOn generalizing bytes with
  | ind n ih =>
      subst h
      cases bytes with
      | nil => exact ⟨[], [], rfl, .inl rfl⟩
      | cons header bytes =>
          rcases exists_ok_or_error (takeCell size header bytes) with ⟨⟨cell, tail⟩, taken⟩ | failed
          · have shorter := takeCell_length taken
            obtain ⟨run, rest, rfl, stop⟩ :=
              ih tail.length (by rw [List.length_cons]; omega) tail rfl
            refine ⟨cell :: run, rest, ?_, stop⟩
            rw [takeCell_eq_ok_iff.1 taken, List.flatMap_cons, List.append_assoc]
          · obtain ⟨cause, failed⟩ := failed
            exact ⟨[], header :: bytes, rfl, .inr ⟨cause, takeCell_eq_error_iff.1 failed⟩⟩

theorem unpack_run (run : List Cell) : unpack (run.flatMap Cell.pack) = .ok ⟨run⟩ := by
  have read := unpackOnto_run (run.flatMap Cell.pack).length [] run []
  simp only [List.append_nil] at read
  rw [unpack, read, unpackOnto, List.reverse_reverse]
  rfl

theorem unpack_stop {run : List Cell} {rest : List UInt8} {cause : Malformed}
    (stop : Stops (run.flatMap Cell.pack ++ rest).length rest cause) :
    unpack (run.flatMap Cell.pack ++ rest) = .error cause := by
  rw [unpack, unpackOnto_run]
  cases rest with
  | nil =>
      cases stop with
      | cut nonempty _ _ => exact absurd rfl nonempty
  | cons header bytes =>
      rw [unpackOnto_cons, takeCell_eq_error_iff.2 stop]
      rfl

/-- A stream is read exactly if it is a packing, and then as what was packed. -/
theorem unpack_eq_ok_iff {body : List UInt8} {p : Pattern} :
    unpack body = .ok p ↔ body = p.pack := by
  constructor
  · intro read
    obtain ⟨run, rest, rfl, rfl | ⟨cause, stop⟩⟩ := exists_run body.length body
    · rw [List.append_nil, unpack_run] at read
      cases read
      rw [List.append_nil]
      rfl
    · rw [unpack_stop stop] at read
      cases read
  · intro h
    subst h
    exact unpack_run p.cells

/-- A stream is refused exactly where it stops being cells. -/
theorem unpack_eq_error_iff {body : List UInt8} {cause : Malformed} :
    unpack body = .error cause ↔ ∃ (run : List Cell) (rest : List UInt8),
      body = run.flatMap Cell.pack ++ rest ∧ Stops body.length rest cause := by
  constructor
  · intro refused
    obtain ⟨run, rest, rfl, rfl | ⟨cause', stop⟩⟩ := exists_run body.length body
    · rw [List.append_nil, unpack_run] at refused
      cases refused
    · rw [unpack_stop stop] at refused
      cases refused
      exact ⟨run, rest, rfl, stop⟩
  · intro h
    obtain ⟨run, rest, rfl, stop⟩ := h
    exact unpack_stop stop

/-- No cell starts where a stream stops being cells. -/
theorem Stops.ne_pack {size : Nat} {rest : List UInt8} {cause : Malformed}
    (stop : Stops size rest cause) (cell : Cell) (tail : List UInt8) :
    rest ≠ cell.pack ++ tail := by
  intro h
  rw [Cell.pack_eq, List.cons_append] at h
  subst h
  have refused := takeCell_eq_error_iff.2 stop
  rw [takeCell_eq_ok_iff.2 (by rw [Cell.pack_eq, List.cons_append])] at refused
  cases refused

/-- The run of cells before that place is the longest one. -/
theorem Stops.run_longest {size : Nat} {rest : List UInt8} {cause : Malformed}
    (stop : Stops size rest cause) {run run' : List Cell}
    (front : run'.flatMap Cell.pack <+: run.flatMap Cell.pack ++ rest) : run' <+: run := by
  induction run generalizing run' with
  | nil =>
      cases run' with
      | nil => exact List.nil_prefix
      | cons cell run' =>
          obtain ⟨tail, h⟩ := front
          rw [List.flatMap_cons, List.append_assoc] at h
          exact absurd h.symm (stop.ne_pack cell _)
  | cons cell run ih =>
      cases run' with
      | nil => exact List.nil_prefix
      | cons cell' run' =>
          obtain ⟨tail, h⟩ := front
          simp only [List.flatMap_cons, List.append_assoc] at h
          obtain ⟨rfl, behind⟩ := pack_append_inj h
          exact (List.prefix_cons_inj _).2 (ih ⟨tail, behind⟩)

/-- Where the header of the cell with an index stands in the packing. -/
def headerOffset (p : Pattern) (i : Nat) : Nat := ((p.cells.take i).flatMap Cell.pack).length

theorem pack_getElem?_headerOffset (p : Pattern) {i : Nat} (h : i < p.cells.length) :
    p.pack[p.headerOffset i]? = some p.cells[i].header := by
  have split : p.pack = (p.cells.take i).flatMap Cell.pack ++
      (p.cells[i].pack ++ (p.cells.drop (i + 1)).flatMap Cell.pack) := by
    rw [← List.flatMap_cons, ← List.drop_eq_getElem_cons h, ← List.flatMap_append,
      List.take_append_drop]
    rfl
  rw [split, headerOffset, List.getElem?_append_right (Nat.le_refl _), Nat.sub_self, Cell.pack_eq]
  rfl

/-- A cell ends a row exactly if its header is zero. -/
theorem isEndOfRow_iff_header (p : Pattern) {i : Nat} (h : i < p.cells.length) :
    p.cells[i].isEndOfRow = true ↔ p.pack[p.headerOffset i]? = some 0 := by
  rw [pack_getElem?_headerOffset p h, Option.some.injEq, Cell.header_eq_zero_iff]

/-- The rows of a pattern are counted by its zero headers. -/
theorem rowCount_eq_countP (p : Pattern) : p.rowCount =
    (List.finRange p.cells.length).countP fun i : Fin p.cells.length =>
      p.pack[p.headerOffset i.val]? = some 0 := by
  rw [rowCount]
  conv_lhs => rw [← List.map_getElem_finRange p.cells, List.countP_map]
  apply List.countP_congr
  intro i _
  simpa using isEndOfRow_iff_header p i.isLt

/-- A pattern is found at its paragraph exactly if its length is there, counts its
own two bytes, stays inside the image, and covers a packing. -/
theorem load_eq_ok_iff {image : Image} {q : Nat} {p : Pattern} (h : q ≠ 0) :
    load image q = .ok p ↔ ∃ low high, image[16 * q]? = some low ∧
      image[16 * q + 1]? = some high ∧ 2 ≤ low.toNat + 256 * high.toNat ∧
      16 * q + (low.toNat + 256 * high.toNat) ≤ image.size ∧
      (image.extract (16 * q + 2) (16 * q + (low.toNat + 256 * high.toNat))).toList = p.pack := by
  rw [load, if_neg h, bind_eq_ok_iff]
  constructor
  · intro h
    obtain ⟨size, hsize, body⟩ := h
    obtain ⟨low, high, hl, hh, rfl⟩ := Image.word_eq_ok_iff.1 hsize
    split at body
    · cases body
    · next enough =>
      simp only [bind_eq_ok_iff, Image.slice_eq_ok_extract_iff, unpack_eq_ok_iff] at body
      obtain ⟨bytes, ⟨inside, rfl⟩, packed⟩ := body
      refine ⟨low, high, hl, hh, by omega, by omega, ?_⟩
      rw [← packed]
      congr 2
      omega
  · intro h
    obtain ⟨low, high, hl, hh, enough, inside, packed⟩ := h
    refine ⟨_, Image.word_eq_ok_iff.2 ⟨low, high, hl, hh, rfl⟩, ?_⟩
    rw [if_neg (by omega)]
    simp only [bind_eq_ok_iff, Image.slice_eq_ok_extract_iff, unpack_eq_ok_iff]
    refine ⟨_, ⟨by omega, rfl⟩, ?_⟩
    rw [← packed]
    congr 2
    omega

/-- The decoder of packed patterns accepts exactly its grammar and loses nothing.
What was packed is read back; what is read packs to the same bytes, and its row
ends are the zero headers; anything else is refused behind the longest run of
cells, where a header names a channel that does not exist or a cell is cut short.
A pattern is found in an image exactly if its length leads to a packing. -/
theorem unpack_accepts_exactly_packings :
    (∀ cells : List Cell, unpack (cells.flatMap Cell.pack) = .ok ⟨cells⟩) ∧
    (∀ (body : List UInt8) (p : Pattern), unpack body = .ok p → body = p.pack ∧
      (∀ (i : Nat) (h : i < p.cells.length),
        p.cells[i].isEndOfRow = true ↔ body[p.headerOffset i]? = some 0) ∧
      p.rowCount = (List.finRange p.cells.length).countP fun i : Fin p.cells.length =>
        body[p.headerOffset i.val]? = some 0) ∧
    (∀ body : List UInt8, (¬ ∃ p : Pattern, body = p.pack) →
      ∃ (run : List Cell) (rest : List UInt8) (cause : Malformed),
        body = run.flatMap Cell.pack ++ rest ∧
        (∀ run' : List Cell, run'.flatMap Cell.pack <+: body → run' <+: run) ∧
        Stops body.length rest cause ∧ unpack body = .error cause) ∧
    ∀ (image : Image) (q : Nat), q ≠ 0 → ∀ p : Pattern, load image q = .ok p ↔
      ∃ low high, image[16 * q]? = some low ∧ image[16 * q + 1]? = some high ∧
        2 ≤ low.toNat + 256 * high.toNat ∧
        16 * q + (low.toNat + 256 * high.toNat) ≤ image.size ∧
        (image.extract (16 * q + 2) (16 * q + (low.toNat + 256 * high.toNat))).toList = p.pack := by
  refine ⟨unpack_run, ?_, ?_, fun image q h p => load_eq_ok_iff h⟩
  · intro body p read
    obtain rfl := unpack_eq_ok_iff.1 read
    exact ⟨rfl, fun i h => isEndOfRow_iff_header p h, rowCount_eq_countP p⟩
  · intro body unpacked
    rcases exists_ok_or_error (unpack body) with ⟨p, read⟩ | ⟨cause, refused⟩
    · exact absurd ⟨p, unpack_eq_ok_iff.1 read⟩ unpacked
    · obtain ⟨run, rest, split, stop⟩ := unpack_eq_error_iff.1 refused
      exact ⟨run, rest, cause, split, fun run' front => stop.run_longest (split ▸ front), stop,
        refused⟩

/-- A volume and a row end are read as such, a fifth channel is refused, and both
show in an image whose second paragraph holds them. -/
theorem unpack_volume_row :
    (unpack [0x40, 0x20, 0x00] = .ok ⟨[{ volume := some 0x20 }, Cell.endOfRow]⟩ ∧
      rowCount ⟨[{ volume := some 0x20 }, Cell.endOfRow]⟩ =
        (List.finRange 2).countP fun i : Fin 2 => ([0x40, 0x20, 0x00] : List UInt8)[
          headerOffset ⟨[{ volume := some 0x20 }, Cell.endOfRow]⟩ i.val]? = some 0) ∧
    ((¬ ∃ p : Pattern, ([0x40, 0x20, 0x44] : List UInt8) = p.pack) ∧
      ∃ cause, unpack [0x40, 0x20, 0x44] = .error cause) ∧
    ((1 : Nat) ≠ 0 ∧
      load (Array.replicate 16 0 ++ #[5, 0, 0x40, 0x20, 0x00]) 1 =
        .ok ⟨[{ volume := some 0x20 }, Cell.endOfRow]⟩) := by
  have read : unpack [0x40, 0x20, 0x00] = .ok ⟨[{ volume := some 0x20 }, Cell.endOfRow]⟩ :=
    unpack_accepts_exactly_packings.1 [{ volume := some 0x20 }, Cell.endOfRow]
  have refused : unpack [0x40, 0x20, 0x44] = .error (.channelRange 5) :=
    unpack_eq_error_iff.2 ⟨[{ volume := some 0x20 }], [0x44], rfl, .channel (by decide)⟩
  have unpacked : ¬ ∃ p : Pattern, ([0x40, 0x20, 0x44] : List UInt8) = p.pack := by
    intro h
    obtain ⟨p, packed⟩ := h
    rw [unpack_eq_ok_iff.2 packed] at refused
    cases refused
  obtain ⟨_, _, cause, _, _, _, h⟩ := unpack_accepts_exactly_packings.2.2.1 _ unpacked
  exact ⟨⟨read, (unpack_accepts_exactly_packings.2.1 _ _ read).2.2⟩, ⟨unpacked, cause, h⟩,
    by decide, (unpack_accepts_exactly_packings.2.2.2 _ 1 (by decide) _).2
      ⟨5, 0, rfl, rfl, by decide, by decide, rfl⟩⟩

end Pattern

end Chiptune.ScreamTracker

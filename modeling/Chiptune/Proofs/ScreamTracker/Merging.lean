import Chiptune.Proofs.ScreamTracker.Row

/-!
# The last cell wins

A row has for each channel and field what the last cell between its row end and
the one before says; where no cell says anything, it has nothing. So rows do not
reach across row ends: a pattern is split part by part, cells behind the last row
end belong to no row, and inside of a row the order of cells of different
channels does not matter.
-/

namespace Chiptune.ScreamTracker

variable {α : Type}

theorem splitOnto_append (done : List Row) (current : Row) (front back : List Cell) :
    splitOnto done current (front ++ back) =
      splitOnto (splitOnto done current front).1.reverse (splitOnto done current front).2 back := by
  induction front generalizing done current with
  | nil => simp [splitOnto]
  | cons cell front ih =>
      rw [List.cons_append, splitOnto, splitOnto]
      split
      · exact ih _ _
      · exact ih _ _

/-- Earlier rows stay in front of the later ones. -/
theorem splitOnto_eq_append (done : List Row) (current : Row) (cells : List Cell) :
    (splitOnto done current cells).1 = done.reverse ++ (splitOnto [] current cells).1 := by
  induction cells generalizing done current with
  | nil => simp [splitOnto]
  | cons cell cells ih =>
      rw [splitOnto, splitOnto]
      split
      · rw [ih (current :: done), ih [current]]
        simp
      · exact ih _ _

/-- Cells without a row end go into the row in progress. -/
theorem splitOnto_plain (done : List Row) (current : Row) {cells : List Cell}
    (plain : Cell.endOfRow ∉ cells) :
    splitOnto done current cells = (done.reverse, cells.foldl Row.merge current) := by
  induction cells generalizing current with
  | nil => rfl
  | cons cell cells ih =>
      rw [List.mem_cons, not_or] at plain
      have inside : cell.isEndOfRow = false := decide_eq_false (Ne.symm plain.1)
      rw [splitOnto, inside, if_neg Bool.false_ne_true, List.foldl_cons]
      exact ih _ plain.2

namespace Pattern

/-- Rows end with their row end, so a pattern is split part by part. -/
theorem rows_append (front back : List Cell) :
    rows ⟨front ++ [Cell.endOfRow] ++ back⟩ =
      rows ⟨front ++ [Cell.endOfRow]⟩ ++ rows ⟨back⟩ := by
  have ended : (splitOnto [] Row.empty (front ++ [Cell.endOfRow])).2 = Row.empty := by
    rw [splitOnto_append]
    rfl
  show (splitOnto [] Row.empty (front ++ [Cell.endOfRow] ++ back)).1 = _
  rw [splitOnto_append, splitOnto_eq_append, ended, List.reverse_reverse]
  rfl

theorem rows_unfinished {cells : List Cell} (plain : Cell.endOfRow ∉ cells) :
    rows ⟨cells⟩ = [] :=
  congrArg Prod.fst (splitOnto_plain [] Row.empty plain)

theorem rows_stretch {stretch : List Cell} (plain : Cell.endOfRow ∉ stretch) :
    rows ⟨stretch ++ [Cell.endOfRow]⟩ = [stretch.foldl Row.merge Row.empty] := by
  show (splitOnto [] Row.empty (stretch ++ [Cell.endOfRow])).1 = _
  rw [splitOnto_append, splitOnto_plain [] Row.empty plain]
  rfl

/-- The cells between the row end before a row and its own. -/
def Between (p : Pattern) (row : Nat) (stretch : List Cell) : Prop :=
  ∃ before after, p.cells = before ++ stretch ++ Cell.endOfRow :: after ∧
    (before = [] ∨ before.getLast? = some Cell.endOfRow) ∧
    before.countP Cell.isEndOfRow = row ∧ Cell.endOfRow ∉ stretch

/-- Every row has its stretch of cells. -/
theorem exists_between {p : Pattern} {row : Nat} (inside : row < p.rowCount) :
    ∃ stretch, p.Between row stretch := by
  obtain ⟨cells⟩ := p
  rw [rowCount] at inside
  simp only [Between]
  induction cells generalizing row with
  | nil => exact absurd inside (Nat.not_lt_zero row)
  | cons cell cells ih =>
      by_cases marker : cell = Cell.endOfRow
      · subst marker
        have ends : Cell.endOfRow.isEndOfRow = true := rfl
        cases row with
        | zero => exact ⟨[], [], cells, rfl, .inl rfl, rfl, List.not_mem_nil⟩
        | succ row =>
            rw [List.countP_cons_of_pos ends, Nat.add_lt_add_iff_right] at inside
            obtain ⟨stretch, before, after, rfl, ended, count, plain⟩ := ih inside
            refine ⟨stretch, Cell.endOfRow :: before, after, rfl, .inr ?_, ?_, plain⟩
            · rcases ended with rfl | last
              · rfl
              · rw [List.getLast?_cons, last]
                rfl
            · rw [List.countP_cons_of_pos ends, count]
      · have inner : ¬ cell.isEndOfRow = true := by simp [Cell.isEndOfRow, marker]
        rw [List.countP_cons_of_neg inner] at inside
        obtain ⟨stretch, before, after, rfl, ended, count, plain⟩ := ih inside
        rcases ended with rfl | last
        · refine ⟨cell :: stretch, [], after, rfl, .inl rfl, count, ?_⟩
          rw [List.mem_cons, not_or]
          exact ⟨Ne.symm marker, plain⟩
        · refine ⟨stretch, cell :: before, after, rfl, .inr ?_, ?_, plain⟩
          · rw [List.getLast?_cons, last]
            rfl
          · rw [List.countP_cons_of_neg inner, count]

/-- A row is what the cells of its stretch add up to. -/
theorem Between.getElem? {p : Pattern} {row : Nat} {stretch : List Cell}
    (h : p.Between row stretch) :
    p.rows[row]? = some (stretch.foldl Row.merge Row.empty) := by
  obtain ⟨before, after, cells, ended, count, plain⟩ := h
  have split : p.rows = rows ⟨before⟩ ++ ([stretch.foldl Row.merge Row.empty] ++ rows ⟨after⟩) := by
    have whole : p.rows = rows ⟨before ++ (stretch ++ [Cell.endOfRow] ++ after)⟩ := by
      show rows ⟨p.cells⟩ = _
      rw [cells]
      simp
    rw [whole, ← rows_stretch plain, ← rows_append]
    rcases ended with rfl | last
    · rfl
    · obtain ⟨front, rfl⟩ := List.getLast?_eq_some_iff.1 last
      rw [rows_append front]
  have length : (rows ⟨before⟩).length = row := (length_rows ⟨before⟩).trans count
  rw [split, List.getElem?_append_right (Nat.le_of_eq length), length, Nat.sub_self]
  rfl

end Pattern

/-- The last cell of a channel that carries a field has this value in it. -/
def LastSaid (field : Cell → Option α) (c : Channel) (cells : List Cell) (a : α) : Prop :=
  ∃ before cell after, cells = before ++ cell :: after ∧ cell.channel = c ∧ field cell = some a ∧
    ∀ later ∈ after, later.channel = c → field later = none

theorem lastSaid_append_singleton_iff {field : Cell → Option α} {c : Channel}
    {cells : List Cell} {cell : Cell} {a : α} : LastSaid field c (cells ++ [cell]) a ↔
      cell.channel = c ∧ field cell = some a ∨
        (cell.channel = c → field cell = none) ∧ LastSaid field c cells a := by
  constructor
  · rintro ⟨before, found, after, whole, own, said, silent⟩
    rcases List.eq_nil_or_concat after with rfl | ⟨after, last, rfl⟩
    · obtain ⟨-, same⟩ := List.append_inj' whole rfl
      cases same
      exact .inl ⟨own, said⟩
    · have ends : cells ++ [cell] = (before ++ found :: after) ++ [last] := by simpa using whole
      obtain ⟨rfl, same⟩ := List.append_inj' ends rfl
      cases same
      exact .inr ⟨silent cell (by simp), before, found, after, rfl, own, said,
        fun later member => silent later (by simp [member])⟩
  · rintro (⟨own, said⟩ | ⟨silent, before, found, after, rfl, own, said, later⟩)
    · exact ⟨cells, cell, [], rfl, own, said, by simp⟩
    · refine ⟨before, found, after ++ [cell], by simp, own, said, ?_⟩
      intro other member
      rcases List.mem_append.1 member with inside | last
      · exact later other inside
      · rw [List.mem_singleton.1 last]
        exact silent

/-- The field that a stretch leaves is what its last such cell says. -/
theorem lastField_eq_some_iff {field : Cell → Option α} {c : Channel} {cells : List Cell}
    {a : α} : lastField field c cells = some a ↔ LastSaid field c cells a := by
  induction cells using List.reverseRecOn with
  | nil => simp [lastField, LastSaid]
  | append_singleton cells cell ih =>
      rw [lastField_append_singleton, lastSaid_append_singleton_iff, ← ih]
      by_cases own : cell.channel = c
      · cases said : field cell <;> simp [own]
      · simp [own]

theorem lastField_eq_none_iff {field : Cell → Option α} {c : Channel} {cells : List Cell} :
    lastField field c cells = none ↔ ∀ cell ∈ cells, cell.channel = c → field cell = none := by
  simp [lastField]

/-- In every channel a row has what the last cell with the field says, and nothing
where no cell has it. -/
def LastWins (field : Cell → Option α) (row : Row) (cells : List Cell) : Prop :=
  ∀ c, (∀ a, field (row.cells.get c) = some a ↔ LastSaid field c cells a) ∧
    (field (row.cells.get c) = none ↔ ∀ cell ∈ cells, cell.channel = c → field cell = none)

theorem lastWins_foldl_merge {field : Cell → Option α}
    (replaces : ∀ cell earlier : Cell, field (cell.overlay earlier) =
      (field cell).or (field earlier)) (absent : field {} = none) (cells : List Cell) :
    LastWins field (cells.foldl Row.merge Row.empty) cells := by
  intro c
  rw [foldl_merge_field replaces absent]
  exact ⟨fun a => lastField_eq_some_iff, lastField_eq_none_iff⟩

/-- A channel's slot is marked as the channel's once a cell of it has come. -/
theorem foldl_merge_channel (cells : List Cell) (c : Channel) :
    ((cells.foldl Row.merge Row.empty).cells.get c).channel =
      if ∃ cell ∈ cells, cell.channel = c then c else .pulse1 := by
  induction cells using List.reverseRecOn with
  | nil => simp [Row.empty]
  | append_singleton cells cell ih =>
      rw [List.foldl_append, List.foldl_cons, List.foldl_nil]
      by_cases own : cell.channel = c
      · subst own
        rw [Row.merge_get_self, if_pos ⟨cell, by simp, rfl⟩]
        rfl
      · rw [Row.merge_get_of_ne _ (Ne.symm own), ih]
        simp [or_and_right, exists_or, own]

/-- A row adds up the cells of a stretch. -/
structure Row.Merges (row : Row) (cells : List Cell) : Prop where
  note : LastWins Cell.note row cells
  volume : LastWins Cell.volume row cells
  effect : LastWins Cell.effect row cells
  channel : ∀ c, (row.cells.get c).channel =
    if ∃ cell ∈ cells, cell.channel = c then c else .pulse1

theorem merges_foldl_merge (cells : List Cell) :
    (cells.foldl Row.merge Row.empty).Merges cells where
  note := lastWins_foldl_merge (fun _ _ => rfl) rfl cells
  volume := lastWins_foldl_merge (fun _ _ => rfl) rfl cells
  effect := lastWins_foldl_merge (fun _ _ => rfl) rfl cells
  channel := foldl_merge_channel cells

/-- What a channel has depends on the cells of that channel only. -/
theorem foldl_merge_get (row : Row) (cells : List Cell) (c : Channel) :
    (cells.foldl Row.merge row).cells.get c =
      (cells.filter fun cell => cell.channel = c).foldl
        (fun earlier cell => cell.overlay earlier) (row.cells.get c) := by
  induction cells generalizing row with
  | nil => rfl
  | cons cell cells ih =>
      rw [List.foldl_cons, ih]
      by_cases own : cell.channel = c
      · subst own
        rw [Row.merge_get_self]
        simp
      · rw [Row.merge_get_of_ne _ (Ne.symm own)]
        simp [own]

/-- Stretches with the same cells in each channel, in the same order there, add up
to the same. -/
theorem foldl_merge_congr (row : Row) {cells others : List Cell}
    (same : ∀ c, (cells.filter fun cell => cell.channel = c) =
      others.filter fun cell => cell.channel = c) :
    cells.foldl Row.merge row = others.foldl Row.merge row := by
  have each : (cells.foldl Row.merge row).cells = (others.foldl Row.merge row).cells := by
    ext c
    rw [foldl_merge_get, foldl_merge_get, same]
  exact congrArg Row.mk each

namespace Pattern

theorem rows_congr (before after : List Cell) {cells others : List Cell}
    (plain : Cell.endOfRow ∉ cells) (plain' : Cell.endOfRow ∉ others)
    (same : ∀ c, (cells.filter fun cell => cell.channel = c) =
      others.filter fun cell => cell.channel = c) :
    rows ⟨before ++ cells ++ after⟩ = rows ⟨before ++ others ++ after⟩ := by
  show (splitOnto [] Row.empty (before ++ cells ++ after)).1 =
    (splitOnto [] Row.empty (before ++ others ++ after)).1
  rw [splitOnto_append, splitOnto_append _ _ before, splitOnto_plain _ _ plain,
    splitOnto_append _ _ (before ++ others), splitOnto_append _ _ before,
    splitOnto_plain _ _ plain', foldl_merge_congr _ same]

/-- A pattern has a row for each row end; in each channel, and for each field, a row
has what the last cell of its stretch says. The rows up to a row end do not depend
on what comes behind it, nor the later ones on what comes before; cells behind the
last row end belong to no row, and cells of different channels may change places
inside of a row. -/
theorem rows_last_cell_wins :
    (∀ p : Pattern, p.rows.length = p.rowCount ∧
      (∀ row < p.rowCount, ∃ stretch, p.Between row stretch) ∧
      ∀ row stretch, p.Between row stretch →
        ∃ merged, p.rows[row]? = some merged ∧ merged.Merges stretch) ∧
    (∀ front back, rows ⟨front ++ [Cell.endOfRow] ++ back⟩ =
      rows ⟨front ++ [Cell.endOfRow]⟩ ++ rows ⟨back⟩) ∧
    (∀ rest, Cell.endOfRow ∉ rest → rows ⟨rest⟩ = [] ∧
      ∀ front, rows ⟨front ++ [Cell.endOfRow] ++ rest⟩ = rows ⟨front ++ [Cell.endOfRow]⟩) ∧
    ∀ before cells others after, Cell.endOfRow ∉ cells → Cell.endOfRow ∉ others →
      (∀ c, (cells.filter fun cell => cell.channel = c) =
        others.filter fun cell => cell.channel = c) →
      rows ⟨before ++ cells ++ after⟩ = rows ⟨before ++ others ++ after⟩ := by
  refine ⟨fun p => ⟨length_rows p, fun row inside => exists_between inside, ?merged⟩,
    rows_append, ?unfinished, ?order⟩
  case merged =>
    intro row stretch between
    exact ⟨_, between.getElem?, merges_foldl_merge stretch⟩
  case unfinished =>
    intro rest plain
    refine ⟨rows_unfinished plain, fun front => ?_⟩
    rw [rows_append, rows_unfinished plain, List.append_nil]
  case order =>
    intro before cells others after plain plain' same
    exact rows_congr before after plain plain' same

/-- A row in which two cells of a channel set its volume and one between them sets
its effect, and a cell behind the row. -/
def crowdedRow : Pattern := ⟨[
  { channel := .pulse2, volume := some 10 },
  { channel := .wave, volume := some 3 },
  { channel := .pulse2, effect := some ⟨8, 1⟩ },
  { channel := .pulse2, volume := some 20 }] ++ [.endOfRow] ++ [
  { channel := .wave, volume := some 9 }]⟩

theorem crowdedRow_last_cell_wins : ∃ merged : Row, crowdedRow.rows[0]? = some merged ∧
    crowdedRow.rows.length = 1 ∧
    (merged.cells.get .pulse2).volume = some 20 ∧
    (merged.cells.get .pulse2).effect = some ⟨8, 1⟩ ∧
    (merged.cells.get .pulse2).note = none ∧
    (merged.cells.get .wave).volume = some 3 ∧
    (merged.cells.get .noise).channel = .pulse1 := by
  obtain ⟨each, -, -, -⟩ := rows_last_cell_wins
  obtain ⟨length, -, merges⟩ := each crowdedRow
  have between : crowdedRow.Between 0 (crowdedRow.cells.take 4) :=
    ⟨[], crowdedRow.cells.drop 5, rfl, .inl rfl, rfl, by decide⟩
  obtain ⟨merged, found, fields⟩ := merges 0 _ between
  refine ⟨merged, found, length, ?_, ?_, ?_, ?_, ?_⟩
  · exact ((fields.volume .pulse2).1 20).2 ⟨crowdedRow.cells.take 3,
      { channel := .pulse2, volume := some 20 }, [], rfl, rfl, rfl, by decide⟩
  · exact ((fields.effect .pulse2).1 ⟨8, 1⟩).2 ⟨crowdedRow.cells.take 2,
      { channel := .pulse2, effect := some ⟨8, 1⟩ }, [{ channel := .pulse2, volume := some 20 }],
      rfl, rfl, rfl, by decide⟩
  · exact (fields.note .pulse2).2.2 (by decide)
  · exact ((fields.volume .wave).1 3).2 ⟨crowdedRow.cells.take 1,
      { channel := .wave, volume := some 3 }, (crowdedRow.cells.drop 2).take 2,
      rfl, rfl, rfl, by decide⟩
  · rw [fields.channel]
    decide

end Pattern

end Chiptune.ScreamTracker

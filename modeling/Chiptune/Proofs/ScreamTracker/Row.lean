import Chiptune.ScreamTracker.Row
import Mathlib.Data.List.Induction

/-!
# Rows as stretches of cells

The row ends cut the cells of a pattern into stretches; what comes behind the
last one belongs to no row. A row says about a channel what the cells of its
stretch say, each field being that of the last cell of the channel that carries
it.
-/

namespace Chiptune.ScreamTracker

/-- A field of a channel as a stretch of cells leaves it. -/
def lastField {α : Type} (field : Cell → Option α) (c : Channel) (cells : List Cell) : Option α :=
  ((cells.filter fun cell => cell.channel = c).filterMap field).getLast?

theorem lastField_append_singleton {α : Type} (field : Cell → Option α) (c : Channel)
    (cells : List Cell) (cell : Cell) : lastField field c (cells ++ [cell]) =
      if cell.channel = c then (field cell).or (lastField field c cells)
      else lastField field c cells := by
  split
  case isTrue own => cases said : field cell <;> simp [lastField, own, said]
  case isFalse other => simp [lastField, other]

namespace Pattern

/-- The cells between the row end before a row and its own. -/
def rowCells (p : Pattern) (row : Nat) : List Cell :=
  ((p.cells.splitOnP Cell.isEndOfRow)[row]?).getD []

end Pattern

theorem splitOnto_eq_map_splitOnP (done : List Row) {stretch : List Cell}
    (plain : ∀ cell ∈ stretch, cell.isEndOfRow = false) (cells : List Cell) :
    (splitOnto done (stretch.foldl Row.merge Row.empty) cells).1 =
      done.reverse ++ (((stretch ++ cells).splitOnP Cell.isEndOfRow).dropLast.map fun stretch =>
        stretch.foldl Row.merge Row.empty) := by
  -- the row in progress is that of the stretch since the last row end, which grows
  -- with each cell and starts again at the next row end
  induction cells generalizing done stretch with
  | nil =>
      rw [List.append_nil, List.splitOnP_eq_singleton plain]
      simp [splitOnto]
  | cons cell cells ih =>
      cases h : cell.isEndOfRow with
      | true =>
          have nothing : ∀ cell ∈ ([] : List Cell), cell.isEndOfRow = false := by simp
          have next := ih (stretch.foldl Row.merge Row.empty :: done) nothing
          rw [List.foldl_nil, List.nil_append] at next
          have nonempty := List.splitOnP_ne_nil Cell.isEndOfRow cells
          rw [splitOnto, if_pos h, next, List.splitOnP_append_cons_of_forall_mem plain cell h,
            List.dropLast_cons_of_ne_nil nonempty, List.map_cons, List.reverse_cons,
            List.append_assoc, List.singleton_append]
      | false =>
          have longer : ∀ other ∈ stretch ++ [cell], other.isEndOfRow = false := by
            intro other member
            rcases List.mem_append.1 member with before | last
            · exact plain other before
            · rw [List.mem_singleton.1 last, h]
          have next := ih done longer
          rw [List.foldl_append, List.append_assoc] at next
          rw [splitOnto, if_neg (by simp [h])]
          exact next

/-- The rows of a pattern are its stretches between row ends. -/
theorem rows_eq_map_splitOnP (p : Pattern) :
    p.rows = (p.cells.splitOnP Cell.isEndOfRow).dropLast.map fun stretch =>
      stretch.foldl Row.merge Row.empty := by
  have nothing : ∀ cell ∈ ([] : List Cell), cell.isEndOfRow = false := by simp
  have rows := splitOnto_eq_map_splitOnP [] nothing p.cells
  rw [List.foldl_nil, List.nil_append, List.reverse_nil, List.nil_append] at rows
  exact rows

theorem length_splitOnP (cells : List Cell) :
    (cells.splitOnP Cell.isEndOfRow).length = cells.countP Cell.isEndOfRow + 1 := by
  induction cells with
  | nil => rfl
  | cons cell cells ih =>
      rw [List.splitOnP_cons_eq_if_modifyHead, List.countP_cons]
      split <;> simp [ih]

theorem length_rows (p : Pattern) : p.rows.length = p.rowCount := by
  rw [rows_eq_map_splitOnP, List.length_map, List.length_dropLast, length_splitOnP,
    Nat.add_sub_cancel, Pattern.rowCount]

theorem rows_getElem (p : Pattern) {row : Nat} (h : row < p.rows.length) :
    p.rows[row] = (p.rowCells row).foldl Row.merge Row.empty := by
  have inside : row < (p.cells.splitOnP Cell.isEndOfRow).length := by
    rw [length_rows, Pattern.rowCount] at h
    rw [length_splitOnP]
    omega
  simp [rows_eq_map_splitOnP, Pattern.rowCells, List.getElem?_eq_getElem inside]

/-- A field that later cells replace is the last one that a stretch carries. -/
theorem foldl_merge_field {α : Type} {field : Cell → Option α}
    (replaces : ∀ cell earlier : Cell, field (cell.overlay earlier) =
      (field cell).or (field earlier)) (absent : field {} = none) (c : Channel)
    (cells : List Cell) :
    field ((cells.foldl Row.merge Row.empty).cells.get c) = lastField field c cells := by
  induction cells using List.reverseRecOn with
  | nil =>
      rw [List.foldl_nil, Row.empty, PerChannel.get_ofFn]
      exact absent
  | append_singleton cells cell ih =>
      rw [List.foldl_append, List.foldl_cons, List.foldl_nil, lastField_append_singleton]
      split
      case isTrue own =>
        subst own
        rw [Row.merge_get_self, replaces, ih]
      case isFalse other =>
        rw [Row.merge_get_of_ne _ (Ne.symm other), ih]

end Chiptune.ScreamTracker

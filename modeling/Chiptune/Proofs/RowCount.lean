import Chiptune.Proofs.ScreamTracker.Container
import Chiptune.Proofs.ScreamTracker.Packing

/-!
# How many rows a compiled pattern has

The player steps through 64 rows of every pattern. Protracker patterns have as
many, since the compiler counts them. A Scream Tracker pattern has as many rows as
it ends: 64 if it has no place in the image, and otherwise as many as there are row
ends among its packed cells. Nothing makes these 64: a pattern can be compiled to
fewer rows, at whose end the player does not stop, or to more.
-/

namespace Chiptune

namespace ScreamTracker

/-- The packed cells of the pattern at a paragraph; its length counts its own two
bytes. -/
def bodyAt (image : Image) (paragraph : Nat) : List UInt8 :=
  (image.extract (16 * paragraph + 2) (16 * paragraph + image.wordAt (16 * paragraph))).toList

/-- A pattern of an image ends a number of rows. -/
inductive EndsRows (image : Image) (index : Nat) : Nat → Prop
  | nowhere (unplaced : patternParagraph image index = 0) : EndsRows image index rowsPerPattern
  | packed {cells : List Cell} (placed : patternParagraph image index ≠ 0)
      (body : bodyAt image (patternParagraph image index) = cells.flatMap Cell.pack) :
      EndsRows image index (cells.countP Cell.isEndOfRow)

namespace EndsRows

variable {image : Image} {index : Nat}

theorem unique {n m : Nat} (ends : EndsRows image index n) (ends' : EndsRows image index m) :
    n = m := by
  cases ends with
  | nowhere unplaced =>
      cases ends' with
      | nowhere => rfl
      | packed placed => exact absurd unplaced placed
  | packed placed body =>
      cases ends' with
      | nowhere unplaced => exact absurd unplaced placed
      | @packed cells' _ body' =>
          have same := (Pattern.unpack_run _).symm.trans
            ((congrArg Pattern.unpack (body.symm.trans body')).trans (Pattern.unpack_run cells'))
          cases same
          rfl

/-- A pattern that is read has the rows that it ends. -/
theorem of_load {p : Pattern} (read : Pattern.load image (patternParagraph image index) = .ok p) :
    EndsRows image index p.rowCount := by
  by_cases unplaced : patternParagraph image index = 0
  · rw [Pattern.load, if_pos unplaced] at read
    cases read
    exact .nowhere unplaced
  · obtain ⟨low, high, first, second, -, -, packed⟩ := (Pattern.load_eq_ok_iff unplaced).1 read
    have size : image.wordAt (16 * patternParagraph image index) =
        low.toNat + 256 * high.toNat :=
      (Image.word_eq_ok_wordAt_iff.1
        (Image.word_eq_ok_iff.2 ⟨low, high, first, second, rfl⟩)).2.symm
    refine .packed unplaced ?_
    rw [bodyAt, size]
    exact packed

end EndsRows

theorem endsRows_of_compile {o : Options} {image : Image} {name : String} {song : Song}
    (compiled : (compile o .screamTracker image name).outcome = .ok song) {p : Song.Pattern}
    (member : p ∈ song.patterns) : EndsRows image p.index p.rows.length := by
  obtain ⟨tune, parsed, played⟩ := compile_eq_ok_iff_tune.1 compiled
  obtain ⟨-, rfl⟩ := Tune.parse_eq_ok_iff_container.1 parsed
  obtain ⟨-, -, patterns, -⟩ := Tune.compile_eq_ok_iff.1 played
  have exported := compiled_of_mem_of_forall₂ patterns Tune.index_of_compilePattern member
  obtain ⟨source, read, -, rows, -⟩ := (Tune.compilePattern_eq_ok_iff _ o).1 exported
  rw [rows]
  by_cases inside : p.index < patternCount image
  · rw [Tune.pattern_headerOf image _ inside] at read
    exact EndsRows.of_load read
  · rw [Tune.pattern_headerOf_beyond image _ (Nat.not_lt.1 inside)] at read
    cases read

end ScreamTracker

theorem Protracker.rows_length_of_compile {o : Options} {image : Image} {name : String}
    {song : Song} (compiled : (compile o .protracker image name).outcome = .ok song)
    {p : Song.Pattern} (member : p ∈ song.patterns) : p.rows.length = rowsPerPattern := by
  obtain ⟨tune, -, played⟩ := compile_eq_ok_iff_tune.1 compiled
  obtain ⟨-, -, patterns, -⟩ := Tune.compile_eq_ok_iff.1 played
  have exported := compiled_of_mem_of_forall₂ patterns Tune.index_of_compilePattern member
  exact ((tune.compilePattern_eq_ok_iff o).1 exported).2.1

/-- The numbers of rows that a pattern of an image can be compiled to. -/
def HasRows (image : Image) : Format → Nat → Nat → Prop
  | .protracker, _, rows => rows = Protracker.rowsPerPattern
  | .screamTracker, index, rows => ScreamTracker.EndsRows image index rows

/-- A compiled Protracker pattern has 64 rows. A compiled Scream Tracker pattern
has the rows that the pattern ends in its image, and so 64 of them exactly if it
ends 64 rows there. -/
theorem compile_rows_length_iff {o : Options} {format : Format} {image : Image} {name : String}
    {song : Song} (compiled : (compile o format image name).outcome = .ok song) :
    ∀ p ∈ song.patterns, ∀ rows, p.rows.length = rows ↔ HasRows image format p.index rows := by
  intro p member rows
  cases format with
  | protracker =>
      rw [Protracker.rows_length_of_compile compiled member, eq_comm]
      rfl
  | screamTracker =>
      have ends := ScreamTracker.endsRows_of_compile compiled member
      constructor
      · intro length
        exact length ▸ ends
      · intro ends'
        exact ends.unique ends'

/-- A pattern that ends one row too many has a row that the player never comes to. -/
theorem compile_longPattern_rows_length : ∃ song p,
    (compile {} .screamTracker (ScreamTracker.onePatternImage (List.replicate 65 0))
      "song").outcome = .ok song ∧ p ∈ song.patterns ∧ p.rows.length = 65 ∧
      HasRows (ScreamTracker.onePatternImage (List.replicate 65 0)) .screamTracker p.index 65 := by
  have compiled : (compile {} .screamTracker
      (ScreamTracker.onePatternImage (List.replicate 65 0)) "song").outcome = .ok
        { name := "song"
          patterns := [⟨0, List.replicate 65 [0, 0, 0, 0]⟩]
          startup := some [1, 6, 2, 0x11, 0x22, 0x44, 0x88, 0]
          orders := [0] } := by decide +kernel
  exact ⟨_, _, compiled, .head _, rfl,
    (compile_rows_length_iff compiled _ (.head _) 65).1 rfl⟩

/-- Compilation does not make every pattern 64 rows long: one that ends a single
row is compiled to that row. -/
theorem not_forall_rows_length_eq_rowsPerPattern :
    ¬ ∀ (o : Options) (format : Format) (image : Image) (name : String) (song : Song),
      (compile o format image name).outcome = .ok song →
        ∀ p ∈ song.patterns, p.rows.length = ScreamTracker.rowsPerPattern := by
  intro always
  have compiled : (compile {} .screamTracker (ScreamTracker.onePatternImage [0])
      "song").outcome = .ok
        { name := "song"
          patterns := [⟨0, [[0, 0, 0, 0]]⟩]
          startup := some [1, 6, 2, 0x11, 0x22, 0x44, 0x88, 0]
          orders := [0] } := by decide +kernel
  have length := always _ _ _ _ _ compiled _ (.head _)
  exact absurd length (by decide)

end Chiptune

import Chiptune.Proofs.Machine.Containers
import Chiptune.Proofs.Machine.Encoding
import Chiptune.Proofs.Machine.Rows

/-!
# Compiling on a machine with fixed widths

A whole compilation, step by step: the header, the played patterns row by row, the
start-up stream with its wave samples, and the number of bytes that is told at the
end. For an image of less than 2⁶³ bytes every step stays in range, so the run has
an outcome, and it is the outcome of the compilation. Reading a row back stays in
range for any bytes.
-/

namespace Chiptune.Machine

open Run

namespace ScreamTracker

open Chiptune.ScreamTracker

def pattern (tune : Tune) (index : Nat) : Run Malformed (List RawCell) :=
  match tune.patternParagraphs[index]? with
  | none => throw (.patternRange index tune.patternCount)
  | some paragraph => loadPattern tune.image paragraph

def compileRow (tune : Tune) (o : Options) (index row : Nat) (cells : List RawCell) :
    Run Failure (List UInt8) :=
  encodeRow (Tune.dialect o) index row (voiceIn cells tune.defaultVolume)

def compilePattern (tune : Tune) (o : Options) (index : Nat) : Run Failure Song.Pattern := do
  let cells ← mapError .malformed (pattern tune index)
  let rows ← step (rows cells)
  let encoded ← rows.zipIdx.mapM fun entry => compileRow tune o index entry.2 entry.1
  pure ⟨index, encoded⟩

def compileIfPlayed (tune : Tune) (o : Options) (index : Nat) :
    Run Failure (Option Song.Pattern) :=
  if index ∈ tune.validOrders then do
    let compiled ← compilePattern tune o index
    pure (some compiled)
  else pure none

section

variable {tune : Tune} (small : tune.image.size < 2 ^ 63) (bounded : Bounded tune) (o : Options)

include small bounded

theorem pattern_eq (index : Nat) :
    pattern tune index = of ((tune.pattern index).map fun p => p.cells.map .ofCell) := by
  unfold pattern Tune.pattern
  cases held : tune.patternParagraphs[index]? with
  | none => rfl
  | some paragraph =>
      exact loadPattern_eq small (bounded.paragraphs paragraph (List.mem_of_getElem? held))

theorem compilePattern_eq (index : Nat) :
    compilePattern tune o index = of (tune.compilePattern o index).outcome := by
  have encoded (p : Pattern) : (p.rows.map ofRow).zipIdx.mapM
      (fun entry => compileRow tune o index entry.2 entry.1) =
      of (p.rows.zipIdx.mapM fun entry => (tune.compileRow o index entry.2 entry.1).outcome) := by
    rw [List.zipIdx_map, List.mapM_map]
    exact mapM_of fun entry _ => encodeRow_eq (Tune.dialect o) index entry.2 fun c =>
      voiceIn_eq entry.1 tune.defaultVolume c
  have cells : mapError Failure.malformed (pattern tune index) =
      of (((tune.pattern index).mapError Failure.malformed).map fun p => p.cells.map .ofCell) := by
    rw [pattern_eq small bounded, mapError_of]
    cases tune.pattern index <;> rfl
  simp only [Tune.compilePattern, Journal.bind_outcome, Journal.ofExcept_outcome,
    Pattern.tellRows, Journal.noteIf_outcome, Journal.traverse_outcome, Journal.note_outcome,
    ok_bind]
  rw [compilePattern, cells]
  refine of_map_bind fun p _ => ?_
  rw [rows_eq, step_bind, encoded]
  exact of_bind fun rows _ => rfl

theorem compileIfPlayed_eq (index : Nat) : compileIfPlayed tune o index =
    of (tune.compileIfPlayed o tune.validOrders.eraseDups index).outcome := by
  rw [Tune.compileIfPlayed_outcome, compileIfPlayed]
  simp only [List.mem_eraseDups]
  split
  · rw [compilePattern_eq small bounded]
    exact of_bind_pure
  · rfl

end

def sample (instrument : Instrument) (image : Image) : Run Malformed (List UInt8) := do
  let stop ← step (add 64 instrument.sampleOffset instrument.length)
  if stop ≤ image.size then step (extract image instrument.sampleOffset stop)
  else throw (.sampleBounds instrument.name instrument.sampleOffset instrument.length)

/-- The pairs of a list; a single member at its end is left out. -/
def pairs : List UInt8 → List (List UInt8)
  | a :: b :: rest => [a, b] :: pairs rest
  | _ => []

def packPair (pair : List UInt8) : Option UInt8 := do
  let a ← nth pair 0
  let b ← nth pair 1
  let low ← Byte.shiftRight b 4
  pure ((a &&& (0xF0 : UInt8)) ||| low)

/-- The packed samples, for which room is made beside the flag. -/
def packed (sample : List UInt8) : Option (List UInt8) := do
  let _ ← add 64 1 (sample.length / 2)
  (pairs sample).mapM packPair

/-- The item of a wave sample of one of the lengths that the player has. -/
def waveItem (image : Image) (number : UInt8) (instrument : Instrument) :
    Run Malformed StartupItem := do
  let sample ← sample instrument image
  let relative ← step (Byte.sub number 8)
  let slot := relative &&& (0x07 : UInt8)
  if sample.length = shortWave then do
    let nibbles ← step (packed sample)
    pure (.wave slot nibbles)
  else if sample.length = longWave then do
    let nibbles ← step (packed sample)
    pure (.wave (slot ||| StartupItem.longFlag) nibbles)
  else throw (.waveLength number.toNat instrument.name sample.length)

def waveSlot (tune : Tune) (number : UInt8) : Run Failure (Option StartupItem) :=
  match tune.instrument number with
  | none => pure none
  | some instrument => do
    let item ← mapError .malformed (waveItem tune.image number instrument)
    pure (some item)

/-- The mask of a channel, whose number counts from one. -/
def panOf (tune : Tune) (c : Channel) : Option UInt8 := do
  let first ← toByte c.index
  let number ← Byte.add first 1
  Sound.panMask (tune.pans.get c) number

def panning (tune : Tune) : Option (PerChannel UInt8) := do
  let pulse1 ← panOf tune .pulse1
  let pulse2 ← panOf tune .pulse2
  let wave ← panOf tune .wave
  let noise ← panOf tune .noise
  pure ⟨pulse1, pulse2, wave, noise⟩

def startup (tune : Tune) (o : Options) : Run Failure (List UInt8) := do
  let speed ← step (Sound.playerSpeed tune.speed (o.convertsSpeed .screamTracker))
  let masks ← step (panning tune)
  let waves ← (if o.exportInstruments then waveNumbers else []).mapM (waveSlot tune)
  pure (StartupItem.encode ([.speed speed, .panning masks] ++ waves.filterMap id))

theorem sample_eq {instrument : Instrument} {image : Image}
    (fits : instrument.sampleOffset + instrument.length < 2 ^ 64) :
    sample instrument image = of (instrument.sample image) := by
  rw [sample, add_eq_some fits, step_bind, Instrument.sample]
  split
  · rename_i inside
    rw [extract, if_pos ⟨Nat.le_add_right _ _, inside⟩]
    rfl
  · rfl

/-- Samples are packed pair by pair. -/
theorem mapM_packPair : ∀ samples : List UInt8,
    (pairs samples).mapM packPair = some (packNibbles samples)
  | [] | [_] => rfl
  | a :: b :: rest => by
      have first : packPair [a, b] = some ((a &&& (0xF0 : UInt8)) ||| (b >>> 4)) := rfl
      rw [pairs, List.mapM_cons, first, mapM_packPair rest]
      rfl

theorem packed_eq {sample : List UInt8} (short : sample.length ≤ longWave) :
    packed sample = some (packNibbles sample) := by
  have room : add 64 1 (sample.length / 2) = some (1 + sample.length / 2) := by
    unfold longWave at short
    exact add_eq_some (by omega)
  rw [packed, room, mapM_packPair]
  rfl

theorem waveItem_eq {image : Image} {number : UInt8} (slot : number ∈ waveNumbers)
    {instrument : Instrument} (fits : instrument.sampleOffset + instrument.length < 2 ^ 64) :
    waveItem image number instrument = of (Chiptune.waveItem image number instrument) := by
  have first : ∀ number ∈ waveNumbers, (8 : UInt8) ≤ number := by simp [waveNumbers]
  have relative : Byte.sub number 8 = some (number - 8) := Byte.sub_eq_some (first number slot)
  unfold waveItem Chiptune.waveItem waveFlag?
  rw [sample_eq fits]
  refine of_bind fun sample _ => ?_
  simp only [relative, step_bind]
  split
  · rename_i length
    have short : sample.length ≤ longWave := by
      rw [length]
      decide
    rw [packed_eq short]
    rfl
  split
  · rename_i length
    rw [packed_eq (Nat.le_of_eq length)]
    rfl
  · rfl

theorem panning_eq (tune : Tune) : panning tune = some tune.panning := by
  have mask (c : Channel) : panOf tune c = some (Chiptune.Sound.panMask c (tune.pans.get c)) := by
    have first : toByte c.index = some (UInt8.ofNat c.index) := by cases c <;> rfl
    have number : Byte.add (UInt8.ofNat c.index) 1 = some (UInt8.ofNat c.number) := by
      cases c <;> rfl
    simp only [panOf, first, number, Option.bind_eq_bind, Option.bind_some, Sound.panMask_eq]
  simp only [panning, mask, Option.bind_eq_bind, Option.bind_some]
  rfl

section

variable {tune : Tune} (bounded : Bounded tune) (o : Options)

include bounded

theorem waveSlot_eq {number : UInt8} (slot : number ∈ waveNumbers) :
    waveSlot tune number = of (tune.waveSlot number).outcome := by
  rw [Tune.waveSlot_outcome, waveSlot]
  cases held : tune.instrument number with
  | none => rfl
  | some instrument =>
      obtain ⟨place, length⟩ := bounded.samples number instrument held
      show (mapError _ _ >>= _) = _
      rw [waveItem_eq slot (by omega), mapError_of]
      exact of_bind_pure

theorem startup_eq : startup tune o = of (tune.startup o).outcome := by
  rw [Tune.startup_outcome, startup, Sound.playerSpeed_eq, step_bind, panning_eq, step_bind]
  have slots : ∀ number ∈ (if o.exportInstruments then waveNumbers else []),
      number ∈ waveNumbers := by
    intro number member
    split at member
    · exact member
    · cases member
  rw [mapM_of fun number member => waveSlot_eq bounded (slots number member)]
  exact of_bind fun waves _ => rfl

end

def compile (tune : Tune) (o : Options) (name : String) : Run Failure Song := do
  let patterns ← (List.range tune.patternCount).mapM (compileIfPlayed tune o)
  let startup ← startup tune o
  let song : Song := ⟨name, patterns.filterMap id, some startup, tune.validOrders⟩
  let _ ← step (total 64 ((song.patterns.flatMap (·.rows)).map List.length))
  pure song

theorem length_le_pack (cells : List Cell) : cells.length ≤ (cells.flatMap Cell.pack).length := by
  induction cells with
  | nil => exact Nat.le_refl _
  | cons cell cells ih =>
      rw [List.flatMap_cons, List.length_append, Cell.pack_eq, List.length_cons, List.length_cons]
      omega

theorem length_encodeRow_le (commands : PerChannel Bytecode.Command) :
    (Bytecode.encodeRow commands).length ≤ 16 := by
  have four (command : Bytecode.Command) : command.toBytes.length ≤ 4 := by
    rw [Bytecode.Command.length_toBytes]
    exact Bytecode.commandLength_le command.header
  rw [Bytecode.encodeRow, List.length_flatMap]
  exact sum_map_le fun command _ => four command

/-- A pattern has no more cells than its length field can count bytes. -/
theorem cells_lt_of_load {image : Image} {paragraph : Nat} {p : Pattern}
    (loaded : Pattern.load image paragraph = .ok p) : p.cells.length < 2 ^ 16 := by
  unfold Pattern.load at loaded
  split at loaded
  · cases loaded
    decide
  · obtain ⟨size, counted, loaded⟩ := bind_eq_ok_iff.1 loaded
    split at loaded
    · cases loaded
    · obtain ⟨body, taken, unpacked⟩ := bind_eq_ok_iff.1 loaded
      have packed := length_le_pack p.cells
      rw [Pattern.unpack_eq_ok_iff.1 unpacked] at taken
      have length : (p.cells.flatMap Cell.pack).length = size - 2 := Image.slice_length taken
      have word := word_lt counted
      omega

/-- A pattern has fewer than 2¹⁶ rows of 16 bytes at most. -/
theorem rows_of_compilePattern {tune : Tune} {o : Options} {index : Nat}
    {compiled : Song.Pattern} (h : (tune.compilePattern o index).outcome = .ok compiled) :
    compiled.rows.length < 2 ^ 16 ∧ ∀ bytes ∈ compiled.rows, bytes.length ≤ 16 := by
  obtain ⟨source, read, -, length, encoded⟩ := (tune.compilePattern_eq_ok_iff o).1 h
  have rows : source.rowCount ≤ source.cells.length := List.countP_le_length
  constructor
  · unfold Tune.pattern at read
    split at read
    · cases read
    · have cells := cells_lt_of_load read
      omega
  · intro bytes member
    obtain ⟨row, inside, rfl⟩ := List.getElem_of_mem member
    obtain ⟨commands, -, shown⟩ := encodeVoices_eq_ok_iff.1 (encoded row inside)
    rw [shown]
    exact length_encodeRow_le commands

/-- The bytes of all patterns are counted without an overflow. -/
theorem total_eq_some_of_patterns {patterns : List Song.Pattern} (few : patterns.length < 2 ^ 16)
    (each : ∀ p ∈ patterns, p.rows.length < 2 ^ 16 ∧ ∀ bytes ∈ p.rows, bytes.length ≤ 16) :
    ∃ count, total 64 ((patterns.flatMap (·.rows)).map List.length) = some count := by
  have rows : (patterns.flatMap (·.rows)).length ≤ patterns.length * 2 ^ 16 := by
    rw [List.length_flatMap]
    exact sum_map_le fun p member => Nat.le_of_lt (each p member).1
  have bytes : ((patterns.flatMap (·.rows)).map List.length).sum ≤
      (patterns.flatMap (·.rows)).length * 16 := by
    refine sum_map_le fun row member => ?_
    obtain ⟨p, compiled, inside⟩ := List.mem_flatMap.1 member
    exact (each p compiled).2 row inside
  exact ⟨_, total_eq_some (by omega)⟩

theorem compile_eq {tune : Tune} (small : tune.image.size < 2 ^ 63) (bounded : Bounded tune)
    (o : Options) (name : String) : compile tune o name = of (tune.compile o name).outcome := by
  simp only [Tune.compile, Journal.bind_outcome, Journal.noteAll_outcome, Journal.note_outcome,
    Journal.traverse_outcome, ok_bind]
  rw [compile, mapM_of fun index _ => compileIfPlayed_eq small bounded o index]
  refine of_bind fun patterns compiled => ?_
  rw [startup_eq bounded]
  refine of_bind fun startup _ => ?_
  have few : (patterns.filterMap id).length < 2 ^ 16 := by
    have length := (mapM_range_eq_ok_iff.1 compiled).1
    have fewer := List.length_filterMap_le id patterns
    have count := bounded.patterns
    omega
  have each : ∀ p ∈ patterns.filterMap id,
      p.rows.length < 2 ^ 16 ∧ ∀ bytes ∈ p.rows, bytes.length ≤ 16 := by
    intro p member
    have played := tune.mapM_compileIfPlayed o tune.validOrders.eraseDups
      (List.range tune.patternCount)
    rw [compiled] at played
    exact rows_of_compilePattern (compiled_of_mem_of_forall₂ (mapM_eq_ok_iff.1 played.symm)
      Tune.index_of_compilePattern member)
  obtain ⟨count, counted⟩ := total_eq_some_of_patterns few each
  simp only [counted, step_bind]
  rfl

end ScreamTracker

namespace Protracker

open Chiptune.Protracker

def compileRow (tune : Tune) (o : Options) (index row : Nat) : Run Failure (List UInt8) := do
  let cells ← mapError .malformed (Protracker.row tune.image index row)
  encodeRow (Tune.dialect o) index row (voiceIn cells)

def compilePattern (tune : Tune) (o : Options) (index : Nat) : Run Failure Song.Pattern := do
  let rows ← (List.range rowsPerPattern).mapM (compileRow tune o index)
  pure ⟨index, rows⟩

def compile (tune : Tune) (o : Options) (name : String) : Run Failure Song := do
  let orders ← step (orders tune)
  let patterns ← ((List.range 256).filter orders.contains).mapM (compilePattern tune o)
  pure ⟨name, patterns, none, orders⟩

theorem compileRow_eq {tune : Tune} (small : tune.image.size < 2 ^ 63) (o : Options)
    {index row : Nat} (p : index < 256) (r : row < rowsPerPattern) :
    compileRow tune o index row = of (tune.compileRow o index row).outcome := by
  have cells : mapError Failure.malformed (Protracker.row tune.image index row) =
      of (((tune.row index row).mapError Failure.malformed).map PerChannel.toList) := by
    rw [row_eq small p r, mapError_of]
    cases tune.row index row <;> rfl
  simp only [Tune.compileRow, Journal.bind_outcome, Journal.ofExcept_outcome]
  rw [compileRow, cells]
  exact of_map_bind fun cells _ =>
    encodeRow_eq (Tune.dialect o) index row fun c => voiceIn_eq cells c

theorem compilePattern_eq {tune : Tune} (small : tune.image.size < 2 ^ 63) (o : Options)
    {index : Nat} (p : index < 256) :
    compilePattern tune o index = of (tune.compilePattern o index).outcome := by
  rw [Tune.compilePattern_outcome, compilePattern]
  rw [mapM_of fun row member => compileRow_eq small o p (List.mem_range.1 member)]
  exact of_bind fun rows _ => rfl

theorem compile_eq {image : Image} {tune : Tune} (small : tune.image.size < 2 ^ 63)
    (read : Tune.parse image = .ok tune) (o : Options) (name : String) :
    compile tune o name = of (tune.compile o name).outcome := by
  have played : ∀ index ∈ tune.played, index < 256 := by
    intro index member
    exact List.mem_range.1 (List.mem_of_mem_filter member)
  rw [Tune.compile_outcome, compile, orders_eq read, step_bind]
  show (tune.played.mapM _ >>= _) = _
  rw [mapM_of fun index member => compilePattern_eq small o (played index member)]
  exact of_bind fun patterns _ => rfl

end Protracker

def compile (o : Options) (format : Format) (image : Image) (name : String) : Run Failure Song :=
  match format with
  | .screamTracker => do
    let tune ← mapError .malformed (ScreamTracker.parse image)
    ScreamTracker.compile tune o name
  | .protracker => do
    let tune ← mapError .malformed (Protracker.parse image)
    Protracker.compile tune o name

theorem compile_eq {image : Image} (small : image.size < 2 ^ 63) (o : Options) (format : Format)
    (name : String) :
    compile o format image name = of (Chiptune.compile o format image name).outcome := by
  cases format with
  | screamTracker =>
      rw [ScreamTracker.compile_outcome_tune, compile]
      simp only [ScreamTracker.parse_eq small, mapError_of]
      refine of_bind fun tune parsed => ?_
      obtain ⟨bounded, rfl⟩ := ScreamTracker.bounded_of_parse (mapError_eq_ok_iff.1 parsed)
      exact ScreamTracker.compile_eq small bounded o name
  | protracker =>
      rw [Protracker.compile_outcome_tune, compile]
      simp only [Protracker.parse_eq small, mapError_of]
      refine of_bind fun tune parsed => ?_
      have read := mapError_eq_ok_iff.1 parsed
      obtain ⟨-, rfl⟩ := Chiptune.Protracker.Tune.parse_eq_ok_iff.1 read
      exact Protracker.compile_eq small read o name

/-- A compilation of an image of less than 2⁶³ bytes takes no step that leaves its
range: it ends, with the song or with the cause that it is meant to have. Neither
does reading back a row, whatever bytes it has. -/
theorem compile_stays_in_range {image : Image} (small : image.size < 2 ^ 63) :
    (∀ o format name, (compile o format image name).run =
      some (Chiptune.compile o format image name).outcome) ∧
    ∀ row, (decodeRow row).run = some (Bytecode.decodeRow row) := by
  constructor
  · intro o format name
    rw [compile_eq small, run_of]
  · intro row
    rw [decodeRow_eq, run_of]

/-- The image of a song that plays a kit on the last channel. -/
def kitSong : Image := ScreamTracker.onePatternImage [0xE3, 0xFF, 1, 64, 3, 0x12, 0]

theorem compile_kitSong_stays_in_range :
    kitSong.size < 2 ^ 63 ∧
    (compile {} .screamTracker kitSong "kit").run = some (.ok
      { name := "kit"
        patterns := [⟨0, [[0, 0, 0, 0xDF, 1, 9, 12]]⟩]
        startup := some [1, 6, 2, 0x11, 0x22, 0x44, 0x88, 0]
        orders := [0] }) ∧
    (compile {} .protracker kitSong "kit").run =
      some (.error (.malformed (.truncatedRead 930 20))) ∧
    (decodeRow [0, 0, 0, 0xDF, 1, 9]).run = some (.error (.commandTruncated 4)) := by
  have small : kitSong.size < 2 ^ 63 := by decide +kernel
  obtain ⟨compiled, decoded⟩ := compile_stays_in_range small
  refine ⟨small, ?_, ?_, ?_⟩
  · rw [compiled]
    decide +kernel
  · rw [compiled]
    decide +kernel
  · rw [decoded]
    decide +kernel

end Chiptune.Machine

import Chiptune.Proofs.Machine.Reading
import Chiptune.Proofs.ScreamTracker.Container
import Chiptune.Proofs.Protracker.Layout

/-!
# Song headers, step by step

A header is read by moving to its fields and from table to table. The offsets in
an instrument record are sums with the place of the record, which is a paragraph
number of 16 bits and so far below the width of an offset; the counts of a song
move the position, but never behind the end of the image, where reading fails.
-/

namespace Chiptune.Machine

open Run

namespace ScreamTracker

open Chiptune.ScreamTracker

section

variable {α : Type}

/-- A field of a record. -/
def readField (image : Image) (base offset count : Nat) (value : List UInt8 → Option α) :
    Run Malformed α := do
  let place ← step (add 64 base offset)
  let (a, _) ← readAt image place count value
  pure a

end

/-- The paragraph of a sample, a 24-bit field of a record. -/
def readParagraph (image : Image) (base : Nat) : Run Malformed Nat := do
  let place ← step (add 64 base 0x0D)
  let (paragraph, _) ← wideAt image place
  pure paragraph

def ofRecord (image : Image) (base : Nat) : Run Malformed Instrument := do
  let fileName ← readField image base 0x01 12 textOf
  let paragraph ← readParagraph image base
  let length ← readField image base 0x10 4 longOf
  let defaultVolume ← readField image base 0x1C 1 byteOf
  let name ← readField image base 0x30 28 textOf
  let signature ← readField image base 0x4C 4 some
  if signature = sampleSignature then do
    let sampleOffset ← step (mul 64 paragraph 16)
    pure ⟨name, fileName, defaultVolume, length, sampleOffset⟩
  else throw (.instrumentSignature name base)

/-- The instrument at a paragraph of an image. -/
def loadInstrument (image : Image) (paragraph : Nat) : Run Malformed (Option Instrument) :=
  if paragraph = 0 then pure none
  else do
    let base ← step (mul 64 paragraph 16)
    let type ← readField image base 0x00 1 byteOf
    if type = sampledType then do
      let instrument ← ofRecord image base
      pure (some instrument)
    else pure none

/-- Channels are shown with a number that counts from one. -/
def requireEnabled (settings : List UInt8) (c : Channel) : Run Malformed Unit :=
  let setting := settings.getD c.index 0
  if setting < channelOff then pure ()
  else do
    let number ← step (add 64 c.index 1)
    throw (.channelDisabled number setting)

def readPans (image : Image) (custom : Bool) (position : Nat) :
    Run Malformed (PerChannel UInt8) :=
  if custom then do
    let (table, _) ← read image position channelSlots some
    pure (.ofFn fun c => panOfEntry (table.getD c.index 0))
  else pure (.ofFn fun _ => Sound.centre)

def parse (image : Image) : Run Malformed Tune := do
  let (name, _) ← readAt image 0 28 textOf
  let (signature, _) ← readAt image signatureOffset 4 some
  of (require (signature = songSignature) .songSignature)
  let (marker, _) ← readAt image 0x1C 1 byteOf
  of (require (marker = nameMarker) .headerMarker)
  let (orderCount, position) ← readAt image 0x20 2 wordOf
  let (instrumentCount, position) ← read image position 2 wordOf
  let (patternCount, _) ← read image position 2 wordOf
  let (speed, position) ← readAt image 0x31 1 byteOf
  let (tempo, _) ← read image position 1 byteOf
  of (require (tempo = playerTempo) (.tempo tempo))
  of (require (speed != 0) .initialSpeed)
  let (panning, _) ← readAt image 0x35 1 byteOf
  let custom := panning = customPanningFlag
  let (settings, _) ← readAt image 0x40 channelSlots some
  requireEnabled settings .pulse1
  requireEnabled settings .pulse2
  requireEnabled settings .wave
  requireEnabled settings .noise
  let (orders, position) ← readAt image ordersOffset orderCount some
  let (instrumentParagraphs, position) ← words image position instrumentCount
  let (patternParagraphs, position) ← words image position patternCount
  let pans ← readPans image custom position
  let instruments ← instrumentParagraphs.mapM (loadInstrument image)
  pure {
    image := image
    name := name
    speed := speed
    tempo := tempo
    pans := pans
    customPanning := custom
    orders := orders
    instruments := instruments
    patternParagraphs := patternParagraphs }

theorem requireEnabled_eq (settings : List UInt8) (c : Channel) :
    requireEnabled settings c = of (Chiptune.ScreamTracker.requireEnabled settings c) := by
  have number : add 64 c.index 1 = some c.number := by cases c <;> rfl
  unfold requireEnabled Chiptune.ScreamTracker.requireEnabled require
  simp only [number, step_bind, decide_eq_true_eq]
  split <;> rfl

section

variable {α : Type} {image : Image} (small : image.size < 2 ^ 63)

include small

theorem readField_eq {base offset : Nat} (fits : base + offset < 2 ^ 64) {count : Nat}
    {value : List UInt8 → Option α} {meaning : List UInt8 → α}
    (means : ∀ bytes, bytes.length = count → value bytes = some (meaning bytes)) :
    readField image base offset count value =
      of ((image.slice (base + offset) count).map meaning) := by
  rw [readField, add_eq_some fits, step_bind, readAt_eq small _ means]
  cases image.slice (base + offset) count <;> rfl

theorem readParagraph_eq {base : Nat} (fits : base + 0x0D < 2 ^ 64) :
    readParagraph image base = of (image.wide (base + 0x0D)) := by
  rw [readParagraph, add_eq_some fits, step_bind, wideAt_eq small]
  cases image.wide (base + 0x0D) <;> rfl

theorem ofRecord_eq {base : Nat} (far : base < 2 ^ 32) :
    ofRecord image base = of (Instrument.ofRecord image base) := by
  unfold ofRecord Instrument.ofRecord
  rw [readField_eq small (by omega) fun bytes _ => textOf_eq bytes]
  refine of_bind fun fileName _ => ?_
  rw [readParagraph_eq small (by omega)]
  refine of_bind fun paragraph taken => ?_
  rw [readField_eq small (by omega) fun _ => longOf_eq]
  refine of_bind fun length _ => ?_
  rw [readField_eq small (by omega) fun _ => byteOf_eq]
  refine of_bind fun defaultVolume _ => ?_
  rw [readField_eq small (by omega) fun bytes _ => textOf_eq bytes]
  refine of_bind fun name _ => ?_
  rw [readField_eq small (by omega) fun _ _ => rfl]
  refine of_map_bind fun signature _ => ?_
  simp only [mul_paragraph (wide_lt taken), step_bind]
  split <;> rfl

theorem loadInstrument_eq {paragraph : Nat} (word : paragraph < 2 ^ 16) :
    loadInstrument image paragraph = of (Instrument.load image paragraph) := by
  unfold loadInstrument Instrument.load
  split
  · rfl
  rw [mul_paragraph (by omega), step_bind, readField_eq small (by omega) fun _ => byteOf_eq]
  refine of_bind fun type _ => ?_
  split
  · rw [ofRecord_eq small (by omega)]
    exact of_bind_pure
  · rfl

theorem readPans_eq (custom : Bool) {position : Nat} (inside : position ≤ image.size) :
    readPans image custom position =
      of (Chiptune.ScreamTracker.readPans image custom position) := by
  cases custom with
  | false => rfl
  | true =>
      show (read image position channelSlots some >>= _) = _
      rw [read_bytes small inside]
      exact of_map_bind fun table _ => rfl

theorem parse_eq : parse image = of (Tune.parse image) := by
  unfold parse Tune.parse
  rw [readAt_text small]
  refine of_map_bind fun name _ => ?_
  rw [readAt_bytes small]
  refine of_map_bind fun signature _ => ?_
  refine of_bind fun _ _ => ?_
  rw [readAt_byte small]
  refine of_map_bind fun marker _ => ?_
  refine of_bind fun _ _ => ?_
  rw [readAt_word small]
  refine of_map_bind fun orderCount taken => ?_
  simp only [read_word small (Image.word_eq_ok_wordAt_iff.1 taken).1]
  refine of_map_bind fun instrumentCount taken => ?_
  simp only [read_word small (Image.word_eq_ok_wordAt_iff.1 taken).1]
  refine of_map_bind fun patternCount _ => ?_
  rw [readAt_byte small]
  refine of_map_bind fun speed taken => ?_
  simp only [read_byte small (Image.byte_eq_ok_iff.1 taken).1]
  refine of_map_bind fun tempo _ => ?_
  refine of_bind fun _ _ => ?_
  refine of_bind fun _ _ => ?_
  rw [readAt_byte small]
  refine of_map_bind fun panning _ => ?_
  rw [readAt_bytes small]
  refine of_map_bind fun settings _ => ?_
  simp only [requireEnabled_eq]
  refine of_bind fun _ _ => ?_
  refine of_bind fun _ _ => ?_
  refine of_bind fun _ _ => ?_
  refine of_bind fun _ _ => ?_
  rw [readAt_bytes small]
  refine of_map_bind fun orders taken => ?_
  have ordersInside := le_size_of_slice taken
  simp only [words_eq small ordersInside]
  refine of_map_bind fun instrumentParagraphs taken => ?_
  have instrumentsInside := ((Image.words_eq_ok_iff ordersInside).1 taken).1
  have instrumentWords := ((Image.words_eq_ok_iff ordersInside).1 taken).2
  simp only [words_eq small instrumentsInside]
  refine of_map_bind fun patternParagraphs taken => ?_
  have patternsInside := ((Image.words_eq_ok_iff instrumentsInside).1 taken).1
  simp only [readPans_eq small _ patternsInside]
  refine of_bind fun pans _ => ?_
  have word : ∀ paragraph ∈ instrumentParagraphs, paragraph < 2 ^ 16 := by
    intro paragraph member
    rw [instrumentWords] at member
    obtain ⟨_, -, rfl⟩ := List.mem_map.1 member
    exact wordAt_lt _ _
  rw [mapM_of fun paragraph member => loadInstrument_eq small (word paragraph member)]
  exact of_bind fun instruments _ => rfl

end

/-- The numbers of a song have the widths of the fields that they are read from. -/
structure Bounded (tune : Tune) : Prop where
  samples : ∀ number instrument, tune.instrument number = some instrument →
    instrument.sampleOffset < 2 ^ 28 ∧ instrument.length < 2 ^ 32
  patterns : tune.patternCount < 2 ^ 16
  paragraphs : ∀ paragraph ∈ tune.patternParagraphs, paragraph < 2 ^ 16

theorem recordAt_bounded (image : Image) (paragraph : Nat) :
    (recordAt image paragraph).sampleOffset < 2 ^ 28 ∧
      (recordAt image paragraph).length < 2 ^ 32 := by
  have place := wideAt_lt image (16 * paragraph + 0x0D)
  refine ⟨?_, longAt_lt image (16 * paragraph + 0x10)⟩
  show 16 * image.wideAt (16 * paragraph + 0x0D) < 2 ^ 28
  omega

theorem bounded_of_parse {image : Image} {tune : Tune} (read : Tune.parse image = .ok tune) :
    Bounded tune ∧ tune.image = image := by
  obtain ⟨-, rfl⟩ := Tune.parse_eq_ok_iff_container.1 read
  refine ⟨⟨?_, ?_, ?_⟩, rfl⟩
  · intro number instrument held
    by_cases beyond : number = 0 ∨ instrumentCount image < number.toNat
    · rw [Tune.instrument_headerOf_beyond image beyond] at held
      cases held
    · have first : 1 ≤ number.toNat := by
        refine Nat.pos_of_ne_zero fun zero => beyond (.inl ?_)
        exact UInt8.toNat_inj.1 zero
      rw [Tune.instrument_headerOf image first (by omega)] at held
      obtain ⟨-, rfl⟩ := eq_recordAt_of_slotAt held
      exact recordAt_bounded image _
  · rw [Tune.patternCount_headerOf]
    exact wordAt_lt _ _
  · intro paragraph member
    obtain ⟨_, -, rfl⟩ := List.mem_map.1 member
    exact wordAt_lt _ _

end ScreamTracker

namespace Protracker

open Chiptune.Protracker

def parse (image : Image) : Run Malformed Tune := do
  let (name, position) ← readAt image 0 20 textOf
  let (_, position) ← read image position 930 some
  let (length, position) ← read image position 1 byteOf
  if orderSlots < length.toNat then throw (.songLength length.toNat)
  else do
    let (_, position) ← read image position 1 some
    let (table, position) ← read image position orderSlots some
    let (signature, _) ← read image position 4 some
    if signature = songSignature then pure ⟨image, name, length.toNat, table⟩
    else throw .sampleModuleSignature

/-- The orders that are played, a part of their table. -/
def orders (tune : Tune) : Option (List Nat) :=
  (slice tune.table 0 tune.length).map (List.map UInt8.toNat)

theorem parse_eq {image : Image} (small : image.size < 2 ^ 63) :
    parse image = of (Tune.parse image) := by
  unfold parse Tune.parse
  rw [readAt_text small]
  refine of_map_bind fun name taken => ?_
  simp only [read_bytes small (Image.text_eq_ok_iff.1 taken).1]
  refine of_map_bind fun _ taken => ?_
  simp only [read_byte small (le_size_of_slice taken)]
  refine of_map_bind fun length taken => ?_
  simp only []
  split
  · rfl
  simp only [read_bytes small (Image.byte_eq_ok_iff.1 taken).1]
  refine of_map_bind fun _ taken => ?_
  simp only [read_bytes small (le_size_of_slice taken)]
  refine of_map_bind fun table taken => ?_
  simp only [read_bytes small (le_size_of_slice taken)]
  refine of_map_bind fun signature _ => ?_
  simp only []
  split <;> rfl

/-- The length of a song has been compared with the size of the table. -/
theorem orders_eq {image : Image} {tune : Tune} (read : Tune.parse image = .ok tune) :
    orders tune = some tune.orders := by
  obtain ⟨valid, rfl⟩ := Tune.parse_eq_ok_iff.1 read
  have inside : (headerOf image).length ≤ (headerOf image).table.length := by
    simpa [headerOf] using valid.length
  rw [orders, slice_eq_some (Nat.zero_le _) inside]
  rfl

end Protracker

end Chiptune.Machine

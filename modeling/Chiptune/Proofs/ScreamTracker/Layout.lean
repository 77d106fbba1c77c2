import Chiptune.Proofs.Image
import Chiptune.ScreamTracker.Tune

/-!
# Where a Scream Tracker song keeps its bytes

The header has fixed fields, among them three counts from which the places of
all tables follow: the orders at 96, then the instrument and the pattern
paragraphs, and last the pan positions, if the header announces them. A header
is read exactly if the image has all these tables, the player can play the
song's tempo, speed and channels, and every instrument can be read.
-/

namespace Chiptune.ScreamTracker

section

variable (image : Image)

def orderCount : Nat := image.wordAt 0x20

def instrumentCount : Nat := image.wordAt 0x22

def patternCount : Nat := image.wordAt 0x24

def instrumentTable : Nat := 0x60 + orderCount image

def patternTable : Nat := instrumentTable image + 2 * instrumentCount image

def panTable : Nat := patternTable image + 2 * patternCount image

/-- The header announces a table of pan positions. -/
def AnnouncesPanning : Prop := image.byteAt 0x35 = 252

instance : Decidable (AnnouncesPanning image) := by
  unfold AnnouncesPanning
  infer_instance

def orderAt (k : Nat) : UInt8 := image.byteAt (0x60 + k)

def instrumentParagraph (k : Nat) : Nat := image.wordAt (instrumentTable image + 2 * k)

def patternParagraph (k : Nat) : Nat := image.wordAt (patternTable image + 2 * k)

/-- The pan position of a channel: that of its table entry, if there is a table
and the entry is marked as one, and else the centre. -/
def panAt (c : Channel) : UInt8 :=
  let entry := image.byteAt (panTable image + c.index)
  if AnnouncesPanning image ∧ entry &&& 0x20 ≠ 0 then entry &&& 0x0F else 8

/-- The header of a song is complete, and the player can play what it asks for. -/
structure ValidHeader : Prop where
  complete : panTable image + (if AnnouncesPanning image then 32 else 0) ≤ image.size
  signature : [image.byteAt 0x2C, image.byteAt 0x2D, image.byteAt 0x2E, image.byteAt 0x2F] =
    songSignature
  marker : image.byteAt 0x1C = 0x1A
  tempo : image.byteAt 0x32 = 150
  speed : image.byteAt 0x31 ≠ 0
  enabled : ∀ c : Channel, image.byteAt (0x40 + c.index) < 16

/-- What is read from the header of a song, beside its instruments. -/
def headerOf (instruments : List (Option Instrument)) : Tune where
  image := image
  name := Text.field ((List.range 28).map fun k => image.byteAt (0 + k))
  speed := image.byteAt 0x31
  tempo := image.byteAt 0x32
  pans := .ofFn (panAt image)
  customPanning := AnnouncesPanning image
  orders := (List.range (orderCount image)).map (orderAt image)
  instruments := instruments
  patternParagraphs := (List.range (patternCount image)).map (patternParagraph image)

end

theorem require_eq_ok_iff {condition : Bool} {cause : Malformed} {u : Unit} :
    require condition cause = .ok u ↔ condition = true := by
  cases condition <;> simp [require]

theorem requireEnabled_eq_ok_iff {image : Image} {c : Channel} {u : Unit} :
    requireEnabled ((List.range channelSlots).map fun k => image.byteAt (0x40 + k)) c = .ok u ↔
      image.byteAt (0x40 + c.index) < 16 := by
  have setting : ((List.range channelSlots).map fun k => image.byteAt (0x40 + k)).getD c.index 0 =
      image.byteAt (0x40 + c.index) := by
    cases c <;> rfl
  unfold requireEnabled
  simp only [setting, require_eq_ok_iff, decide_eq_true_eq]
  exact Iff.rfl

theorem panAt_of_announced {image : Image} (announced : AnnouncesPanning image) (c : Channel) :
    panAt image c = panOfEntry (image.byteAt (panTable image + c.index)) := by
  unfold panAt panOfEntry
  by_cases marked : image.byteAt (panTable image + c.index) &&& 0x20 = 0 <;>
    simp [announced, marked, Sound.centre]

/-- Pan positions are read from their table, if there is one. -/
theorem readPans_eq_ok_iff {image : Image} {pans : PerChannel UInt8}
    (start : panTable image ≤ image.size) :
    readPans image (image.byteAt 0x35 = customPanningFlag) (panTable image) = .ok pans ↔
      panTable image + (if AnnouncesPanning image then 32 else 0) ≤ image.size ∧
        pans = .ofFn (panAt image) := by
  unfold readPans
  by_cases announced : AnnouncesPanning image
  · have entry : ∀ c : Channel, ((List.range channelSlots).map fun k =>
        image.byteAt (panTable image + k)).getD c.index 0 =
          image.byteAt (panTable image + c.index) := by
      intro c
      cases c <;> rfl
    have positions : panAt image = fun c => panOfEntry (((List.range channelSlots).map fun k =>
        image.byteAt (panTable image + k)).getD c.index 0) := by
      funext c
      rw [entry, panAt_of_announced announced]
    have custom : decide (image.byteAt 0x35 = customPanningFlag) = true := decide_eq_true announced
    rw [if_pos custom, if_pos announced, positions]
    exact Image.map_slice_eq_ok_iff
  · have centred : panAt image = fun _ => Sound.centre := by
      funext c
      exact if_neg fun marked => announced marked.1
    have custom : ¬ decide (image.byteAt 0x35 = customPanningFlag) = true := by
      rw [decide_eq_true_eq]
      exact announced
    rw [if_neg custom, if_neg announced, centred, Except.ok.injEq, eq_comm]
    exact (and_iff_right start).symm

namespace Tune

/-- A header is read exactly if it is valid and its instruments can be read. -/
theorem parse_eq_ok_iff {image : Image} {tune : Tune} :
    parse image = .ok tune ↔ ValidHeader image ∧ ∃ instruments,
      ((List.range (instrumentCount image)).map (instrumentParagraph image)).mapM
        (Instrument.load image) = .ok instruments ∧ tune = headerOf image instruments := by
  -- what is read is a function of the image, so the steps become a list of conditions
  simp only [parse, bind_eq_ok_iff, pure_eq_ok, Image.text_eq_ok_iff, Image.byte_eq_ok_iff,
    Image.word_eq_ok_wordAt_iff, Image.slice_eq_ok_byteAt_iff, require_eq_ok_iff,
    requireEnabled_eq_ok_iff, decide_eq_true_eq, bne_iff_ne, and_assoc, exists_and_left,
    exists_eq_left, exists_const]
  constructor
  · intro h
    obtain ⟨-, -, signature, -, marker, -, -, -, -, -, tempo, speed, -, -, pulse1, pulse2, wave,
      noise, ordersInside, _, instrumentsRead, _, patternsRead, _, pansRead, instruments, loaded,
      read⟩ := h
    obtain ⟨instrumentsInside, rfl⟩ := (Image.words_eq_ok_iff ordersInside).1 instrumentsRead
    obtain ⟨patternsInside, rfl⟩ := (Image.words_eq_ok_iff instrumentsInside).1 patternsRead
    obtain ⟨complete, rfl⟩ := (readPans_eq_ok_iff patternsInside).1 pansRead
    have enabled : ∀ c : Channel, image.byteAt (0x40 + c.index) < 16 :=
      Channel.forall_iff.2 ⟨pulse1, pulse2, wave, noise⟩
    exact ⟨⟨complete, signature, marker, tempo, speed, enabled⟩, instruments, loaded,
      (Except.ok.inj read).symm⟩
  · intro h
    obtain ⟨⟨complete, signature, marker, tempo, speed, enabled⟩, instruments, loaded, rfl⟩ := h
    have ordersInside : instrumentTable image ≤ image.size := by
      unfold panTable patternTable at complete
      omega
    have instrumentsInside : patternTable image ≤ image.size := by
      unfold panTable at complete
      omega
    have patternsInside : panTable image ≤ image.size := by omega
    have header : 0x60 ≤ image.size := by
      unfold instrumentTable at ordersInside
      omega
    have signatureInside : signatureOffset + 4 ≤ image.size := by
      unfold signatureOffset
      omega
    have settingsInside : 0x40 + channelSlots ≤ image.size := by
      unfold channelSlots
      omega
    refine ⟨by omega, signatureInside, signature, by omega, marker, by omega, by omega, by omega,
      by omega, by omega, tempo, speed, by omega, settingsInside, enabled .pulse1,
      enabled .pulse2, enabled .wave, enabled .noise, ordersInside,
      _, (Image.words_eq_ok_iff ordersInside).2 ⟨instrumentsInside, rfl⟩,
      _, (Image.words_eq_ok_iff instrumentsInside).2 ⟨patternsInside, rfl⟩,
      _, (readPans_eq_ok_iff patternsInside).2 ⟨complete, rfl⟩, instruments, loaded, rfl⟩

end Tune

end Chiptune.ScreamTracker

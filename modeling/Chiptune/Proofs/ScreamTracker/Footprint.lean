import Chiptune.Proofs.InstrumentExport
import Chiptune.Proofs.ScreamTracker.Container

/-!
# The bytes that a Scream Tracker song is made of

A compilation looks at certain bytes of its image only: at fixed fields of the
header, at the tables, at the fields of instrument records that the player needs,
at the patterns that are played and, if they are exported, at the samples of the
wave slots. `Footprint` lists them. An image that has the same bytes there and is
not shorter compiles to the same song, whatever else it holds: names, unused
patterns and what they lead to, samples that are not exported, padding.

The proof goes by songs that sound alike, which differ at most in what a
compilation does not look at.
-/

namespace Chiptune.ScreamTracker

/-- An order names a pattern of the song. -/
def Named (image : Image) (pattern : Nat) : Prop :=
  pattern < patternCount image ∧ ∃ k < orderCount image, (orderAt image k).toNat = pattern

/-- The offsets of an image that its compilation depends on. -/
inductive Footprint (o : Options) (image : Image) : Nat → Prop
  | marker : Footprint o image 0x1C
  | counts {k : Nat} (field : k < 6) : Footprint o image (0x20 + k)
  | signature {k : Nat} (field : k < 4) : Footprint o image (0x2C + k)
  | speed : Footprint o image 0x31
  | tempo : Footprint o image 0x32
  | panningFlag : Footprint o image 0x35
  | setting {k : Nat} (field : k < 4) : Footprint o image (0x40 + k)
  | order {k : Nat} (field : k < orderCount image) : Footprint o image (0x60 + k)
  | instrumentParagraph {k : Nat} (field : k < 2 * instrumentCount image) :
      Footprint o image (instrumentTable image + k)
  | patternParagraph {pattern k : Nat} (named : Named image pattern) (field : k < 2) :
      Footprint o image (patternTable image + 2 * pattern + k)
  | pan {k : Nat} (announced : AnnouncesPanning image) (field : k < 4) :
      Footprint o image (panTable image + k)
  | recordType {slot : Nat} (inside : slot < instrumentCount image)
      (used : ScreamTracker.instrumentParagraph image slot ≠ 0) :
      Footprint o image (16 * ScreamTracker.instrumentParagraph image slot)
  | samplePointer {slot k : Nat} (inside : slot < instrumentCount image)
      (sampled : IsSampled image (ScreamTracker.instrumentParagraph image slot)) (field : k < 3) :
      Footprint o image (16 * ScreamTracker.instrumentParagraph image slot + 0x0D + k)
  | sampleLength {slot k : Nat} (inside : slot < instrumentCount image)
      (sampled : IsSampled image (ScreamTracker.instrumentParagraph image slot)) (field : k < 4) :
      Footprint o image (16 * ScreamTracker.instrumentParagraph image slot + 0x10 + k)
  | defaultVolume {slot : Nat} (inside : slot < instrumentCount image)
      (sampled : IsSampled image (ScreamTracker.instrumentParagraph image slot)) :
      Footprint o image (16 * ScreamTracker.instrumentParagraph image slot + 0x1C)
  | sampleSignature {slot k : Nat} (inside : slot < instrumentCount image)
      (sampled : IsSampled image (ScreamTracker.instrumentParagraph image slot)) (field : k < 4) :
      Footprint o image (16 * ScreamTracker.instrumentParagraph image slot + 0x4C + k)
  /-- A played pattern: its length, which counts itself, and its cells. -/
  | pattern {pattern k : Nat} (named : Named image pattern)
      (stored : ScreamTracker.patternParagraph image pattern ≠ 0)
      (field : k < image.wordAt (16 * ScreamTracker.patternParagraph image pattern)) :
      Footprint o image (16 * ScreamTracker.patternParagraph image pattern + k)
  /-- The sample of a wave slot, counted from zero. -/
  | sample {slot k : Nat} (exported : o.exportInstruments = true) (wave : 7 ≤ slot ∧ slot < 15)
      (inside : slot < instrumentCount image)
      (sampled : IsSampled image (ScreamTracker.instrumentParagraph image slot))
      (field : k < (recordAt image (ScreamTracker.instrumentParagraph image slot)).length) :
      Footprint o image
        ((recordAt image (ScreamTracker.instrumentParagraph image slot)).sampleOffset + k)

namespace Tune

/-- The second song is compiled to whatever the first one is compiled to. -/
structure SoundsLike (o : Options) (tune tune' : Tune) : Prop where
  speed : tune'.speed = tune.speed
  pans : tune'.pans = tune.pans
  orders : tune'.orders = tune.orders
  patternCount : tune'.patternCount = tune.patternCount
  pattern : ∀ index ∈ tune.validOrders, ∀ source, tune.pattern index = .ok source →
    tune'.pattern index = .ok source
  defaultVolume : tune'.defaultVolume = tune.defaultVolume
  wave : o.exportInstruments = true → ∀ number ∈ waveNumbers, ∀ slot,
    (tune.waveSlot number).outcome = .ok slot → (tune'.waveSlot number).outcome = .ok slot

namespace SoundsLike

variable {o : Options} {tune tune' : Tune}

theorem validOrders_eq (alike : SoundsLike o tune tune') :
    tune'.validOrders = tune.validOrders := by
  rw [validOrders, validOrders, alike.orders, alike.patternCount]

theorem played_eq (alike : SoundsLike o tune tune') : tune'.played = tune.played := by
  rw [played, played, alike.patternCount, alike.validOrders_eq]

/-- The voices of a pattern hear of a song its default volumes only. -/
theorem voiceAt_eq (alike : SoundsLike o tune tune') : tune'.voiceAt = tune.voiceAt := by
  funext source row c
  rw [voiceAt, voiceAt, alike.defaultVolume]

theorem compilePattern (alike : SoundsLike o tune tune') {index : Nat}
    (named : index ∈ tune.validOrders) {compiled : Song.Pattern}
    (ok : (tune.compilePattern o index).outcome = .ok compiled) :
    (tune'.compilePattern o index).outcome = .ok compiled := by
  rw [compilePattern_eq_ok_iff] at ok ⊢
  obtain ⟨source, read, encoded⟩ := ok
  rw [alike.voiceAt_eq]
  exact ⟨source, alike.pattern index named source read, encoded⟩

theorem startup (alike : SoundsLike o tune tune') {stream : List UInt8}
    (ok : (tune.startup o).outcome = .ok stream) : (tune'.startup o).outcome = .ok stream := by
  have panning : tune'.panning = tune.panning := by rw [panning, panning, alike.pans]
  rw [startup_outcome, bind_eq_ok_iff] at ok ⊢
  obtain ⟨waves, listed, encoded⟩ := ok
  rw [alike.speed, panning]
  refine ⟨waves, mapM_eq_ok_of_imp ?_ listed, encoded⟩
  intro number member slot read
  split at member
  · rename_i exported
    exact alike.wave exported number member slot read
  · cases member

theorem compile (alike : SoundsLike o tune tune') {name : String} {song : Song}
    (ok : (tune.compile o name).outcome = .ok song) :
    (tune'.compile o name).outcome = .ok song := by
  rw [compile_outcome, bind_eq_ok_iff] at ok ⊢
  obtain ⟨patterns, compiled, rest⟩ := ok
  obtain ⟨stream, started, assembled⟩ := bind_eq_ok_iff.1 rest
  refine ⟨patterns, ?_, bind_eq_ok_iff.2 ⟨stream, alike.startup started, ?_⟩⟩
  · rw [alike.played_eq]
    apply mapM_eq_ok_of_imp _ compiled
    intro index member q
    exact alike.compilePattern ((mem_played tune).1 member)
  · rw [alike.validOrders_eq]
    exact assembled

end SoundsLike

end Tune

section

variable {o : Options} {image image' : Image}

/-- Two images have the same bytes in a range. -/
def SameBytes (image image' : Image) (offset count : Nat) : Prop :=
  ∀ k < count, image'.byteAt (offset + k) = image.byteAt (offset + k)

theorem SameBytes.slice {offset count : Nat} (same : SameBytes image image' offset count) :
    ((List.range count).map fun k => image'.byteAt (offset + k)) =
      (List.range count).map fun k => image.byteAt (offset + k) :=
  List.map_congr_left fun k member => same k (List.mem_range.1 member)

theorem SameBytes.first {offset count : Nat} (same : SameBytes image image' offset count)
    (some : 0 < count) : image'.byteAt offset = image.byteAt offset := same 0 some

theorem SameBytes.wordAt {offset count : Nat} (same : SameBytes image image' offset count)
    {k : Nat} (inside : k + 2 ≤ count) :
    image'.wordAt (offset + k) = image.wordAt (offset + k) := by
  have low := same k (by omega)
  have high := same (k + 1) (by omega)
  rw [Image.wordAt, Image.wordAt, low, Nat.add_assoc, high]

theorem SameBytes.longAt {offset : Nat} (same : SameBytes image image' offset 4) :
    image'.longAt offset = image.longAt offset := by
  have low := same.wordAt (k := 0) (by omega)
  have high := same.wordAt (k := 2) (by omega)
  rw [Nat.add_zero] at low
  rw [Image.longAt, Image.longAt, low, high]

theorem SameBytes.wideAt {offset : Nat} (same : SameBytes image image' offset 3) :
    image'.wideAt offset = image.wideAt offset := by
  have low := same.wordAt (k := 1) (by omega)
  rw [Image.wideAt, Image.wideAt, low, same.first (by omega)]

/-- A pattern that is read from an image is read from every image that has its
length and its cells. -/
theorem Pattern.load_of_sameBytes {paragraph : Nat} {p : Pattern}
    (longer : image.size ≤ image'.size)
    (same : paragraph ≠ 0 →
      SameBytes image image' (16 * paragraph) (image.wordAt (16 * paragraph)))
    (read : load image paragraph = .ok p) : load image' paragraph = .ok p := by
  unfold load at read ⊢
  by_cases nowhere : paragraph = 0
  · rw [if_pos nowhere] at read ⊢
    exact read
  have same := same nowhere
  simp only [if_neg nowhere, bind_eq_ok_iff, Image.word_eq_ok_wordAt_iff] at read ⊢
  obtain ⟨_, ⟨inside, rfl⟩, body⟩ := read
  split at body
  · cases body
  rename_i enough
  simp only [bind_eq_ok_iff, Image.slice_eq_ok_byteAt_iff] at body
  obtain ⟨_, ⟨complete, rfl⟩, unpacked⟩ := body
  have size : image'.wordAt (16 * paragraph) = image.wordAt (16 * paragraph) :=
    same.wordAt (k := 0) (by omega)
  have cells : SameBytes image image' (16 * paragraph + 2)
      (image.wordAt (16 * paragraph) - 2) := by
    intro k field
    have here := same (2 + k) (by omega)
    rw [← Nat.add_assoc] at here
    exact here
  refine ⟨_, ⟨by omega, rfl⟩, ?_⟩
  rw [size, if_neg enough]
  simp only [bind_eq_ok_iff, Image.slice_eq_ok_byteAt_iff]
  exact ⟨_, ⟨by omega, rfl⟩, by rw [cells.slice]; exact unpacked⟩

/-- A sample that is exported from an image is exported from every image that has
its bytes; the name of its instrument does not matter. -/
theorem waveItem_of_sameBytes {number : UInt8} {instrument instrument' : Instrument}
    {item : StartupItem} (longer : image.size ≤ image'.size)
    (offset : instrument'.sampleOffset = instrument.sampleOffset)
    (length : instrument'.length = instrument.length)
    (same : SameBytes image image' instrument.sampleOffset instrument.length)
    (made : waveItem image number instrument = .ok item) :
    waveItem image' number instrument' = .ok item := by
  rw [waveItem, bind_eq_ok_iff] at made ⊢
  obtain ⟨sample, found, judged⟩ := made
  obtain ⟨inside, rfl⟩ := instrument.sample_eq_ok_iff.1 found
  refine ⟨_, instrument'.sample_eq_ok_iff.2 ⟨by omega, rfl⟩, ?_⟩
  rw [offset, length, same.slice]
  split at judged
  · cases judged
  · exact judged

/-- The second image has the bytes of the first one wherever a compilation of the
first one looks. -/
structure Agrees (o : Options) (image image' : Image) : Prop where
  longer : image.size ≤ image'.size
  same : ∀ offset, Footprint o image offset → image'.byteAt offset = image.byteAt offset

namespace Agrees

variable (agrees : Agrees o image image')

include agrees

theorem counts : SameBytes image image' 0x20 6 := fun _ field => agrees.same _ (.counts field)

theorem orderCount_eq : orderCount image' = orderCount image :=
  agrees.counts.wordAt (k := 0) (by omega)

theorem instrumentCount_eq : instrumentCount image' = instrumentCount image :=
  agrees.counts.wordAt (k := 2) (by omega)

theorem patternCount_eq : patternCount image' = patternCount image :=
  agrees.counts.wordAt (k := 4) (by omega)

theorem instrumentTable_eq : instrumentTable image' = instrumentTable image := by
  rw [instrumentTable, instrumentTable, agrees.orderCount_eq]

theorem patternTable_eq : patternTable image' = patternTable image := by
  rw [patternTable, patternTable, agrees.instrumentTable_eq, agrees.instrumentCount_eq]

theorem panTable_eq : panTable image' = panTable image := by
  rw [panTable, panTable, agrees.patternTable_eq, agrees.patternCount_eq]

theorem announcesPanning_iff : AnnouncesPanning image' ↔ AnnouncesPanning image := by
  rw [AnnouncesPanning, AnnouncesPanning, agrees.same _ .panningFlag]

theorem orders_eq : (List.range (orderCount image')).map (orderAt image') =
    (List.range (orderCount image)).map (orderAt image) := by
  have same : SameBytes image image' 0x60 (orderCount image) :=
    fun _ field => agrees.same _ (.order field)
  rw [agrees.orderCount_eq]
  exact same.slice

theorem panAt_eq (c : Channel) : panAt image' c = panAt image c := by
  have announced := agrees.announcesPanning_iff
  by_cases custom : AnnouncesPanning image
  · have fourth : c.index < 4 := by cases c <;> decide
    have entry := agrees.same _ (.pan custom fourth)
    rw [panAt_of_announced (announced.2 custom), panAt_of_announced custom,
      agrees.panTable_eq, entry]
  · have centred : ¬ AnnouncesPanning image' := fun custom' => custom (announced.1 custom')
    unfold panAt
    simp only [custom, centred, false_and, if_false]

theorem instrumentParagraph_eq {slot : Nat} (inside : slot < instrumentCount image) :
    instrumentParagraph image' slot = instrumentParagraph image slot := by
  have table : SameBytes image image' (instrumentTable image) (2 * instrumentCount image) :=
    fun _ field => agrees.same _ (.instrumentParagraph field)
  rw [instrumentParagraph, instrumentParagraph, agrees.instrumentTable_eq]
  exact table.wordAt (by omega)

theorem patternParagraph_eq {index : Nat} (named : Named image index) :
    patternParagraph image' index = patternParagraph image index := by
  have entry : SameBytes image image' (patternTable image + 2 * index) 2 :=
    fun _ field => agrees.same _ (.patternParagraph named field)
  rw [patternParagraph, patternParagraph, agrees.patternTable_eq]
  exact entry.wordAt (k := 0) (by omega)

theorem validHeader (valid : ValidHeader image) : ValidHeader image' where
  complete := by
    have complete := valid.complete
    have longer := agrees.longer
    rw [agrees.panTable_eq]
    simp only [agrees.announcesPanning_iff]
    omega
  signature := by
    have same : SameBytes image image' 0x2C 4 := fun _ field => agrees.same _ (.signature field)
    exact same.slice.trans valid.signature
  marker := (agrees.same _ .marker).trans valid.marker
  tempo := (agrees.same _ .tempo).trans valid.tempo
  speed := by
    rw [agrees.same _ .speed]
    exact valid.speed
  enabled c := by
    have fourth : c.index < 4 := by cases c <;> decide
    rw [agrees.same _ (.setting fourth)]
    exact valid.enabled c

section

variable {slot : Nat} (inside : slot < instrumentCount image)

include inside

theorem recordType_eq (used : instrumentParagraph image slot ≠ 0) :
    image'.byteAt (16 * instrumentParagraph image slot) =
      image.byteAt (16 * instrumentParagraph image slot) :=
  agrees.same _ (.recordType inside used)

theorem isSampled_iff : IsSampled image' (instrumentParagraph image slot) ↔
    IsSampled image (instrumentParagraph image slot) := by
  unfold IsSampled
  refine and_congr_right fun used => ?_
  rw [agrees.recordType_eq inside used]

theorem validRecord (used : instrumentParagraph image slot ≠ 0)
    (valid : ValidRecord image (instrumentParagraph image slot)) :
    ValidRecord image' (instrumentParagraph image slot) where
  present := Nat.lt_of_lt_of_le valid.present agrees.longer
  complete type := by
    rw [agrees.recordType_eq inside used] at type
    exact Nat.le_trans (valid.complete type) agrees.longer
  signature type := by
    rw [agrees.recordType_eq inside used] at type
    have same : SameBytes image image' (16 * instrumentParagraph image slot + 0x4C) 4 :=
      fun _ field => agrees.same _ (.sampleSignature inside ⟨used, type⟩ field)
    exact same.slice.trans (valid.signature type)

variable (sampled : IsSampled image (instrumentParagraph image slot))

include sampled

theorem defaultVolume_eq : (recordAt image' (instrumentParagraph image slot)).defaultVolume =
    (recordAt image (instrumentParagraph image slot)).defaultVolume :=
  agrees.same _ (.defaultVolume inside sampled)

theorem length_eq : (recordAt image' (instrumentParagraph image slot)).length =
    (recordAt image (instrumentParagraph image slot)).length := by
  have same : SameBytes image image' (16 * instrumentParagraph image slot + 0x10) 4 :=
    fun _ field => agrees.same _ (.sampleLength inside sampled field)
  exact same.longAt

theorem sampleOffset_eq : (recordAt image' (instrumentParagraph image slot)).sampleOffset =
    (recordAt image (instrumentParagraph image slot)).sampleOffset := by
  have same : SameBytes image image' (16 * instrumentParagraph image slot + 0x0D) 3 :=
    fun _ field => agrees.same _ (.samplePointer inside sampled field)
  exact congrArg (16 * ·) same.wideAt

end

theorem validContainer (valid : ValidContainer image) : ValidContainer image' where
  header := agrees.validHeader valid.header
  records slot inside used := by
    rw [agrees.instrumentCount_eq] at inside
    rw [agrees.instrumentParagraph_eq inside] at used ⊢
    exact agrees.validRecord inside used (valid.records slot inside used)

/-- The number of an instrument leads in both images to the same slot, or in both
to none. -/
theorem instrument_cases (number : UInt8) :
    ((headerOf image (slots image)).instrument number = none ∧
      (headerOf image' (slots image')).instrument number = none) ∨
    (∃ slot < instrumentCount image, slot = number.toNat - 1 ∧
      IsSampled image (instrumentParagraph image slot) ∧
      (headerOf image (slots image)).instrument number =
        some (recordAt image (instrumentParagraph image slot)) ∧
      (headerOf image' (slots image')).instrument number =
        some (recordAt image' (instrumentParagraph image slot))) := by
  by_cases counted : number = 0 ∨ instrumentCount image < number.toNat
  · refine .inl ⟨Tune.instrument_headerOf_beyond image counted, ?_⟩
    rw [← agrees.instrumentCount_eq] at counted
    exact Tune.instrument_headerOf_beyond image' counted
  have first : 1 ≤ number.toNat := by
    have nonzero : number ≠ 0 := fun zero => counted (.inl zero)
    exact Nat.one_le_iff_ne_zero.2 fun zero => nonzero (UInt8.toNat_inj.1 zero)
  have last : number.toNat ≤ instrumentCount image := by omega
  have inside : number.toNat - 1 < instrumentCount image := by omega
  have last' : number.toNat ≤ instrumentCount image' := by
    rw [agrees.instrumentCount_eq]
    exact last
  rw [Tune.instrument_headerOf image first last, Tune.instrument_headerOf image' first last',
    agrees.instrumentParagraph_eq inside]
  by_cases sampled : IsSampled image (instrumentParagraph image (number.toNat - 1))
  · refine .inr ⟨_, inside, rfl, sampled, slotAt_of_sampled sampled, ?_⟩
    exact slotAt_of_sampled ((agrees.isSampled_iff inside).2 sampled)
  · refine .inl ⟨slotAt_of_unsampled sampled, slotAt_of_unsampled fun sampled' => ?_⟩
    exact sampled ((agrees.isSampled_iff inside).1 sampled')

theorem pattern_eq_ok {index : Nat} (named : Named image index) {source : Pattern}
    (read : (headerOf image (slots image)).pattern index = .ok source) :
    (headerOf image' (slots image')).pattern index = .ok source := by
  have inside' : index < patternCount image' := by
    rw [agrees.patternCount_eq]
    exact named.1
  rw [Tune.pattern_headerOf image _ named.1] at read
  rw [Tune.pattern_headerOf image' _ inside', agrees.patternParagraph_eq named]
  exact Pattern.load_of_sameBytes agrees.longer
    (fun stored _ field => agrees.same _ (.pattern named stored field)) read

theorem defaultVolume_headerOf_eq : (headerOf image' (slots image')).defaultVolume =
    (headerOf image (slots image)).defaultVolume := by
  funext number
  unfold Tune.defaultVolume
  rcases agrees.instrument_cases number with ⟨none, none'⟩ | ⟨slot, inside, -, sampled, held, held'⟩
  · rw [none, none']
  · rw [held, held', Option.map_some, Option.map_some, agrees.defaultVolume_eq inside sampled]

theorem waveSlot_eq_ok (exported : o.exportInstruments = true) {number : UInt8}
    (wave : number ∈ waveNumbers) {item : Option StartupItem}
    (made : ((headerOf image (slots image)).waveSlot number).outcome = .ok item) :
    ((headerOf image' (slots image')).waveSlot number).outcome = .ok item := by
  rw [Tune.waveSlot_outcome] at made ⊢
  rcases agrees.instrument_cases number with
    ⟨none, none'⟩ | ⟨slot, inside, rfl, sampled, held, held'⟩
  · rw [none']
    rw [none] at made
    exact made
  rw [held] at made
  rw [held']
  obtain ⟨carried, exports, rfl⟩ := map_eq_ok_iff.1 made
  have range : 8 ≤ number.toNat ∧ number.toNat ≤ 15 := (mem_waveNumbers_iff number).1 wave
  refine map_eq_ok_iff.2 ⟨carried, mapError_eq_ok_iff.2 ?_, rfl⟩
  refine waveItem_of_sameBytes agrees.longer (agrees.sampleOffset_eq inside sampled)
    (agrees.length_eq inside sampled) ?_ (mapError_eq_ok_iff.1 exports)
  exact fun _ field => agrees.same _ (.sample exported (by omega) inside sampled field)

theorem soundsLike : Tune.SoundsLike o (headerOf image (slots image))
    (headerOf image' (slots image')) where
  speed := agrees.same _ .speed
  pans := by
    apply PerChannel.ext_get
    intro c
    rw [headerOf, headerOf, PerChannel.get_ofFn, PerChannel.get_ofFn, agrees.panAt_eq]
  orders := agrees.orders_eq
  patternCount := by
    rw [Tune.patternCount_headerOf, Tune.patternCount_headerOf, agrees.patternCount_eq]
  pattern index member source read := by
    rw [Tune.mem_validOrders, Tune.patternCount_headerOf] at member
    have named : Named image index := by
      refine ⟨member.2, ?_⟩
      simpa [headerOf] using member.1
    exact agrees.pattern_eq_ok named read
  defaultVolume := agrees.defaultVolume_headerOf_eq
  wave exported _ wave _ made := agrees.waveSlot_eq_ok exported wave made

end Agrees

/-- A pattern that is read has its length and its cells in the image. -/
theorem Pattern.complete_of_load {paragraph : Nat} {p : Pattern} (stored : paragraph ≠ 0)
    (read : load image paragraph = .ok p) :
    16 * paragraph + image.wordAt (16 * paragraph) ≤ image.size := by
  unfold load at read
  simp only [if_neg stored, bind_eq_ok_iff, Image.word_eq_ok_wordAt_iff] at read
  obtain ⟨_, ⟨-, rfl⟩, body⟩ := read
  split at body
  · cases body
  rename_i enough
  simp only [bind_eq_ok_iff, Image.slice_eq_ok_byteAt_iff] at body
  obtain ⟨_, ⟨complete, -⟩, -⟩ := body
  omega

section

variable {name : String} {song : Song}
  (ok : ((headerOf image (slots image)).compile o name).outcome = .ok song)

include ok

theorem pattern_complete {index : Nat} (named : Named image index)
    (stored : patternParagraph image index ≠ 0) :
    16 * patternParagraph image index + image.wordAt (16 * patternParagraph image index) ≤
      image.size := by
  have played : index ∈ (headerOf image (slots image)).played := by
    rw [Tune.mem_played, Tune.mem_validOrders, Tune.patternCount_headerOf]
    obtain ⟨inside, k, order, rfl⟩ := named
    have member : orderAt image k ∈ (headerOf image (slots image)).orders :=
      List.mem_map.2 ⟨k, List.mem_range.2 order, rfl⟩
    exact ⟨List.mem_map.2 ⟨_, member, rfl⟩, inside⟩
  rw [Tune.compile_outcome, bind_eq_ok_iff] at ok
  obtain ⟨patterns, compiled, -⟩ := ok
  obtain ⟨_, compiled⟩ := exists_mapM_eq_ok_iff.1 ⟨patterns, compiled⟩ index played
  obtain ⟨source, read, -⟩ := (Tune.compilePattern_eq_ok_iff _ o).1 compiled
  rw [Tune.pattern_headerOf image _ named.1] at read
  exact Pattern.complete_of_load stored read

theorem sample_complete (exported : o.exportInstruments = true) {slot : Nat}
    (wave : 7 ≤ slot ∧ slot < 15) (inside : slot < instrumentCount image)
    (sampled : IsSampled image (instrumentParagraph image slot)) :
    (recordAt image (instrumentParagraph image slot)).sampleOffset +
      (recordAt image (instrumentParagraph image slot)).length ≤ image.size := by
  have number : (UInt8.ofNat (slot + 1)).toNat = slot + 1 := by
    rw [UInt8.toNat_ofNat']
    omega
  have held : (headerOf image (slots image)).instrument (UInt8.ofNat (slot + 1)) =
      some (recordAt image (instrumentParagraph image slot)) := by
    rw [Tune.instrument_headerOf image (by omega) (by omega), number, Nat.add_sub_cancel]
    exact slotAt_of_sampled sampled
  have member : UInt8.ofNat (slot + 1) ∈ waveNumbers := by
    rw [mem_waveNumbers_iff, UInt8.le_iff_toNat_le, UInt8.le_iff_toNat_le, number]
    exact ⟨Nat.succ_le_succ wave.1, wave.2⟩
  rw [Tune.compile_outcome, bind_eq_ok_iff] at ok
  obtain ⟨_, -, rest⟩ := ok
  obtain ⟨_, started, -⟩ := bind_eq_ok_iff.1 rest
  rw [Tune.startup_outcome, bind_eq_ok_iff, exported, if_pos rfl] at started
  obtain ⟨waves, listed, -⟩ := started
  have usable := (Tune.exists_waveSlot_iff _).1
    (exists_mapM_eq_ok_iff.1 ⟨waves, listed⟩ _ member) _ held
  unfold Unusable at usable
  exact Nat.not_lt.1 fun beyond => usable (.inl beyond)

/-- Whatever a successful compilation looks at is in the image. -/
theorem lt_size_of_footprint (valid : ValidContainer image) {offset : Nat}
    (looked : Footprint o image offset) : offset < image.size := by
  have header := valid.header.complete
  unfold panTable patternTable instrumentTable at header
  have complete {slot : Nat} (inside : slot < instrumentCount image)
      (sampled : IsSampled image (instrumentParagraph image slot)) :
      16 * instrumentParagraph image slot + 0x50 ≤ image.size :=
    (valid.records slot inside sampled.1).complete sampled.2
  cases looked with
  | marker | counts | signature | speed | tempo | panningFlag | setting | order => omega
  | instrumentParagraph =>
      unfold instrumentTable
      omega
  | patternParagraph named =>
      have inside := named.1
      unfold patternTable instrumentTable
      omega
  | pan announced =>
      rw [if_pos announced] at header
      unfold panTable patternTable instrumentTable
      omega
  | recordType inside used => exact (valid.records _ inside used).present
  | samplePointer inside sampled | sampleLength inside sampled | defaultVolume inside sampled
  | sampleSignature inside sampled =>
      have whole := complete inside sampled
      omega
  | pattern named stored =>
      have whole := pattern_complete ok named stored
      omega
  | sample exported wave inside sampled =>
      have whole := sample_complete ok exported wave inside sampled
      omega

end

/-- A song is made of the bytes of its footprint: they are all in the image, and
every image that has them and is not shorter compiles to the same song. -/
theorem compile_depends_on_footprint {name : String} {song : Song}
    (compiled : (compile o .screamTracker image name).outcome = .ok song) :
    (∀ offset, Footprint o image offset → offset < image.size) ∧
      ∀ image' : Image, image.size ≤ image'.size →
        (∀ offset, Footprint o image offset → image'[offset]? = image[offset]?) →
        (compile o .screamTracker image' name).outcome = .ok song := by
  rw [compile_eq_ok_iff_tune] at compiled
  obtain ⟨_, read, ok⟩ := compiled
  obtain ⟨valid, rfl⟩ := Tune.parse_eq_ok_iff_container.1 read
  refine ⟨fun _ => lt_size_of_footprint ok valid, ?_⟩
  intro image' longer same
  have agrees : Agrees o image image' := by
    refine ⟨longer, fun offset looked => ?_⟩
    rw [Image.byteAt, Image.byteAt, Array.getD_eq_getD_getElem?, Array.getD_eq_getD_getElem?,
      same offset looked]
  rw [compile_eq_ok_iff_tune]
  exact ⟨_, Tune.parse_eq_ok_iff_container.2 ⟨agrees.validContainer valid, rfl⟩,
    agrees.soundsLike.compile ok⟩

/-- The image of a song that plays the first of its two patterns and whose slot 8
holds a short wave. The title, the paragraph of the second pattern and what comes
behind the first one are left open. -/
def onePlayed (title : List UInt8) (unplayed : List UInt8) (rest : List UInt8) : Image :=
  Array.mk <| title ++ [nameMarker, 0, 0, 0, 2, 0, 8, 0, 2, 0, 0, 0, 0, 0, 0, 0] ++
    songSignature ++ [0, 6, playerTempo] ++ List.replicate 45 0 ++ [0, 255] ++
    List.replicate 14 0 ++ [8, 0] ++ [15, 0] ++ unplayed ++ List.replicate 10 0 ++
    sampleRecord 13 32 ++ List.replicate 32 0x80 ++ [3, 0, 0] ++ rest

def untitled : Image := onePlayed (List.replicate 28 0) [0, 0] []

/-- The same song with a title, bytes behind its end, and a pattern outside of the
image that is not played. -/
def titled : Image := onePlayed (List.replicate 28 0x41) [0xFF, 0xFF] [1, 2, 3]

theorem footprint_untitled {offset : Nat} (looked : Footprint o untitled offset) :
    28 ≤ offset ∧ offset < 243 ∧ offset ≠ 116 ∧ offset ≠ 117 := by
  have counts : orderCount untitled = 2 ∧ instrumentCount untitled = 8 := by decide +kernel
  have tables : instrumentTable untitled = 98 ∧ patternTable untitled = 114 := by decide +kernel
  have record : ∀ slot < instrumentCount untitled, instrumentParagraph untitled slot ≠ 0 →
      instrumentParagraph untitled slot = 8 := by decide +kernel
  have first : ∀ pattern < patternCount untitled,
      (∃ k < orderCount untitled, (orderAt untitled k).toNat = pattern) → pattern = 0 := by
    decide +kernel
  have body : patternParagraph untitled 0 = 15 ∧ untitled.wordAt (16 * 15) = 3 := by
    decide +kernel
  have sample : (recordAt untitled 8).sampleOffset = 208 ∧ (recordAt untitled 8).length = 32 := by
    decide +kernel
  cases looked with
  | marker | counts | signature | speed | tempo | panningFlag | setting | order
  | instrumentParagraph => omega
  | pan announced => exact absurd announced (by decide +kernel)
  | patternParagraph named =>
      obtain rfl := first _ named.1 named.2
      omega
  | recordType inside used =>
      rw [record _ inside used]
      omega
  | samplePointer inside sampled | sampleLength inside sampled | defaultVolume inside sampled
  | sampleSignature inside sampled =>
      rw [record _ inside sampled.1]
      omega
  | pattern named stored field =>
      obtain rfl := first _ named.1 named.2
      rw [body.1] at field ⊢
      omega
  | sample exported wave inside sampled field =>
      rw [record _ inside sampled.1] at field ⊢
      omega

theorem compile_titled_eq_untitled :
    (compile { exportInstruments := true } .screamTracker titled "song").outcome =
      (compile { exportInstruments := true } .screamTracker untitled "song").outcome := by
  have compiled : (compile { exportInstruments := true } .screamTracker untitled
      "song").outcome = .ok
        { name := "song"
          patterns := [⟨0, [[0, 0, 0, 0]]⟩]
          startup := some ([1, 6, 2, 0x11, 0x22, 0x44, 0x88, 3, 0] ++ List.replicate 16 0x88 ++
            [0])
          orders := [0] } := by decide +kernel
  have same : ∀ offset < 243, 28 ≤ offset → offset ≠ 116 → offset ≠ 117 →
      titled[offset]? = untitled[offset]? := by decide +kernel
  rw [compiled]
  refine (compile_depends_on_footprint compiled).2 titled (by decide +kernel) ?_
  intro offset looked
  obtain ⟨titleEnd, inside, low, high⟩ := footprint_untitled looked
  exact same offset inside titleEnd low high

end

end Chiptune.ScreamTracker

import Chiptune.Proofs.Compilation
import Chiptune.Proofs.ScreamTracker.Layout
import Chiptune.Proofs.Sound

/-!
# What the start-up stream tells the player

Each item of the stream says by its first bytes how long it is, so samples may
contain any bytes, those of tags included. `StartupItem.Reads` is the player's
reading, from the front up to the end tag. The stream of a compiled song is read
in one way only, whatever stands behind it: as the song's speed, the panning of
its channels, and the samples of its wave slots.
-/

namespace Chiptune

namespace StartupItem

/-- The player reads items up to the end tag; the last argument is what it has
not read. -/
inductive Reads : List UInt8 → List StartupItem → List UInt8 → Prop
  | done (rest : List UInt8) : Reads (0 :: rest) [] rest
  | speed {bytes rest : List UInt8} {items : List StartupItem} (ticks : UInt8)
      (later : Reads bytes items rest) :
      Reads (1 :: ticks :: bytes) (.speed ticks :: items) rest
  | panning {bytes rest : List UInt8} {items : List StartupItem} (masks : PerChannel UInt8)
      (later : Reads bytes items rest) :
      Reads (2 :: (masks.toList ++ bytes)) (.panning masks :: items) rest
  | wave {bytes rest packed : List UInt8} {items : List StartupItem} (flag : UInt8)
      (length : packed.length = if flag &&& 0x80 = 0 then 16 else 32)
      (later : Reads bytes items rest) :
      Reads (3 :: flag :: (packed ++ bytes)) (.wave flag packed :: items) rest

variable {bytes rest packed : List UInt8} {items : List StartupItem} {flag : UInt8}

theorem reads_done_iff : Reads (0 :: bytes) items rest ↔ items = [] ∧ rest = bytes := by
  constructor
  · intro h
    generalize front : 0 :: bytes = stream at h
    cases h with
    | done rest => exact ⟨rfl, (List.cons.inj front).2.symm⟩
    | speed | panning | wave => simp at front
  · intro h
    obtain ⟨rfl, rfl⟩ := h
    exact .done _

theorem reads_speed_iff {ticks : UInt8} : Reads (1 :: ticks :: bytes) items rest ↔
    ∃ later, Reads bytes later rest ∧ items = .speed ticks :: later := by
  constructor
  · intro h
    generalize front : 1 :: ticks :: bytes = stream at h
    cases h with
    | speed _ later =>
        cases front
        exact ⟨_, later, rfl⟩
    | done | panning | wave => simp at front
  · intro h
    obtain ⟨_, later, rfl⟩ := h
    exact .speed ticks later

theorem reads_panning_iff {masks : PerChannel UInt8} :
    Reads (2 :: (masks.toList ++ bytes)) items rest ↔
      ∃ later, Reads bytes later rest ∧ items = .panning masks :: later := by
  constructor
  · intro h
    generalize front : 2 :: (masks.toList ++ bytes) = stream at h
    cases h with
    | panning masks' later =>
        obtain ⟨a, b, c, d⟩ := masks
        obtain ⟨a', b', c', d'⟩ := masks'
        cases front
        exact ⟨_, later, rfl⟩
    | done | speed | wave => simp at front
  · intro h
    obtain ⟨_, later, rfl⟩ := h
    exact .panning masks later

/-- The flag of a sample tells where it ends. -/
theorem reads_wave_iff (length : packed.length = if flag &&& 0x80 = 0 then 16 else 32) :
    Reads (3 :: flag :: (packed ++ bytes)) items rest ↔
      ∃ later, Reads bytes later rest ∧ items = .wave flag packed :: later := by
  constructor
  · intro h
    generalize front : 3 :: flag :: (packed ++ bytes) = stream at h
    cases h with
    | wave _ length' later =>
        obtain ⟨rfl, same⟩ := List.cons.inj (List.cons.inj front).2
        obtain ⟨rfl, rfl⟩ := List.append_inj same (length.trans length'.symm)
        exact ⟨_, later, rfl⟩
    | done | speed | panning => simp at front
  · intro h
    obtain ⟨_, later, rfl⟩ := h
    exact .wave flag length later

/-- The sample of an item is as long as its flag says. -/
def Measured : StartupItem → Prop
  | wave flag packed => packed.length = if flag &&& 0x80 = 0 then 16 else 32
  | _ => True

/-- A stream is read as the items of which it was made, and its end is noticed
whatever comes behind it. -/
theorem reads_encode_iff {written : List StartupItem} (measured : ∀ item ∈ written, item.Measured)
    {more : List UInt8} :
    Reads (encode written ++ more) items rest ↔ items = written ∧ rest = more := by
  induction written generalizing items with
  | nil => exact reads_done_iff
  | cons item written ih =>
      have later (later : List StartupItem) :
          Reads (encode written ++ more) later rest ↔ later = written ∧ rest = more :=
        ih fun item member => measured item (.tail _ member)
      have front : encode (item :: written) ++ more =
          item.toBytes ++ (encode written ++ more) := by
        simp [encode]
      have step : Reads (encode (item :: written) ++ more) items rest ↔
          ∃ later, Reads (encode written ++ more) later rest ∧ items = item :: later := by
        rw [front]
        cases item with
        | speed ticks => exact reads_speed_iff
        | panning masks => exact reads_panning_iff
        | wave flag packed => exact reads_wave_iff (measured _ (.head _))
      rw [step]
      simp only [later]
      constructor
      · intro h
        obtain ⟨_, ⟨rfl, rfl⟩, rfl⟩ := h
        exact ⟨rfl, rfl⟩
      · intro h
        obtain ⟨rfl, rfl⟩ := h
        exact ⟨_, ⟨rfl, rfl⟩, rfl⟩

theorem packedLength_eq (flag : UInt8) :
    packedLength flag = if flag &&& 0x80 = 0 then 16 else 32 := by
  unfold packedLength longFlag
  by_cases short : flag &&& 0x80 = 0 <;> simp [short]

theorem reads_of_decode? (h : decode? bytes = some items) : Reads bytes items [] := by
  fun_induction decode? bytes generalizing items with
  | case1 =>
      cases h
      exact .done []
  | case2 ticks bytes ih =>
      obtain ⟨later, decoded, rfl⟩ := Option.map_eq_some_iff.1 h
      exact .speed ticks (ih decoded)
  | case3 a b c d bytes ih =>
      obtain ⟨later, decoded, rfl⟩ := Option.map_eq_some_iff.1 h
      exact .panning ⟨a, b, c, d⟩ (ih decoded)
  | case4 flag bytes long ih =>
      obtain ⟨later, decoded, rfl⟩ := Option.map_eq_some_iff.1 h
      have length : (bytes.take (packedLength flag)).length =
          if flag &&& 0x80 = 0 then 16 else 32 := by
        rw [List.length_take, Nat.min_eq_left long, packedLength_eq]
      have sample := Reads.wave flag length (ih decoded)
      rw [List.take_append_drop] at sample
      exact sample
  | case5 => cases h
  | case6 => cases h

theorem decode?_of_reads (h : Reads bytes items rest) (whole : rest = []) :
    decode? bytes = some items := by
  induction h with
  | done rest =>
      subst whole
      rw [decode?]
  | speed ticks later ih => rw [decode?, ih whole, Option.map_some]
  | panning masks later ih =>
      rw [PerChannel.toList]
      simp only [List.cons_append, List.nil_append]
      rw [decode?, ih whole, Option.map_some]
  | @wave bytes rest packed items flag length later ih =>
      rw [← packedLength_eq] at length
      rw [decode?, ← length, if_pos (by simp), List.take_left, List.drop_left, ih whole,
        Option.map_some]

/-- A stream is decoded exactly if the player reads it to its last byte. -/
theorem decode?_eq_some_iff : decode? bytes = some items ↔ Reads bytes items [] :=
  ⟨reads_of_decode?, fun h => decode?_of_reads h rfl⟩

end StartupItem

/-- The nibbles of packed samples, the high one of each byte first. -/
def unpackNibbles (packed : List UInt8) : List UInt8 :=
  packed.flatMap fun (b : UInt8) => [b >>> (4 : UInt8), b &&& (0x0F : UInt8)]

theorem packed_nibbles (a b : UInt8) :
    ((a &&& (0xF0 : UInt8)) ||| (b >>> 4)) >>> 4 = a >>> 4 ∧
      ((a &&& (0xF0 : UInt8)) ||| (b >>> 4)) &&& (0x0F : UInt8) = b >>> 4 := by
  have high : ∀ a : UInt8, (a &&& (0xF0 : UInt8)) >>> 4 = a >>> 4 ∧
      (a &&& (0xF0 : UInt8)) &&& (0x0F : UInt8) = 0 := forall_byte (by decide +kernel)
  have low : ∀ b : UInt8, (b >>> 4) >>> 4 = 0 ∧ (b >>> 4) &&& (0x0F : UInt8) = b >>> 4 :=
    forall_byte (by decide +kernel)
  constructor
  · rw [UInt8.shiftRight_or, (high a).1, (low b).1, UInt8.or_zero]
  · rw [or_and_mask, (high a).2, (low b).2, UInt8.zero_or]

/-- Packing keeps the high nibbles of an even number of samples, and no others. -/
theorem unpackNibbles_packNibbles {samples : List UInt8} (even : samples.length % 2 = 0) :
    unpackNibbles (packNibbles samples) = samples.map (· >>> (4 : UInt8)) ∧
      2 * (packNibbles samples).length = samples.length := by
  fun_induction packNibbles samples with
  | case1 a b samples ih =>
      have shorter : samples.length % 2 = 0 := by
        rw [List.length_cons, List.length_cons] at even
        omega
      obtain ⟨nibbles, length⟩ := ih shorter
      obtain ⟨first, second⟩ := packed_nibbles a b
      constructor
      · rw [unpackNibbles, List.flatMap_cons, first, second, ← unpackNibbles, nibbles]
        rfl
      · simp only [List.length_cons]
        omega
  | case2 samples short =>
      match samples, short with
      | [], _ => exact ⟨rfl, rfl⟩
      | [a], _ => simp at even
      | a :: b :: rest, short => exact absurd rfl (short a b rest)

/-- The flag of a slot counts from the first slot, and its upper bit marks the
long form. -/
theorem waveFlag?_eq_some {number flag : UInt8} (slot : number ∈ waveNumbers) {length : Nat}
    (h : waveFlag? number length = some flag) :
    (length = 32 ∧ flag.toNat = number.toNat - 8 ∧ flag &&& 0x80 = 0) ∨
      (length = 64 ∧ flag.toNat = number.toNat - 8 + 128 ∧ flag &&& 0x80 ≠ 0) := by
  have table : ∀ number ∈ waveNumbers,
      (((number - 8) &&& (0x07 : UInt8)).toNat = number.toNat - 8 ∧
        ((number - 8) &&& (0x07 : UInt8)) &&& (0x80 : UInt8) = 0) ∧
      ((((number - 8) &&& (0x07 : UInt8)) ||| (0x80 : UInt8)).toNat = number.toNat - 8 + 128 ∧
        (((number - 8) &&& (0x07 : UInt8)) ||| (0x80 : UInt8)) &&& (0x80 : UInt8) ≠ 0) := by
    decide +kernel
  unfold waveFlag? at h
  simp only at h
  split at h
  · rename_i short
    cases h
    exact .inl ⟨short, (table number slot).1⟩
  split at h
  · rename_i long
    cases h
    exact .inr ⟨long, (table number slot).2⟩
  · cases h

namespace ScreamTracker

/-- The item that carries the sample of an instrument to the slot of its number. -/
inductive Carries (image : Image) (number : UInt8) (instrument : Instrument) : StartupItem → Prop
  | intro {flag : UInt8} {packed : List UInt8}
      (inside : instrument.sampleOffset + instrument.length ≤ image.size)
      (length : instrument.length = 32 ∨ instrument.length = 64)
      (flag_eq : flag.toNat = number.toNat - 8 + if instrument.length = 64 then 128 else 0)
      (nibbles : unpackNibbles packed = (List.range instrument.length).map fun k =>
        image.byteAt (instrument.sampleOffset + k) >>> (4 : UInt8)) :
      Carries image number instrument (.wave flag packed)

theorem Instrument.sample_eq_ok_iff {instrument : Instrument} {image : Image}
    {bytes : List UInt8} : instrument.sample image = .ok bytes ↔
      instrument.sampleOffset + instrument.length ≤ image.size ∧
        bytes = (List.range instrument.length).map fun k =>
          image.byteAt (instrument.sampleOffset + k) := by
  unfold Instrument.sample
  by_cases inside : instrument.sampleOffset + instrument.length ≤ image.size
  · rw [if_pos inside, Except.ok.injEq, Image.extract_eq_map_byteAt inside, and_iff_right inside,
      eq_comm]
  · rw [if_neg inside]
    exact iff_of_false (fun h => nomatch h) fun h => inside h.1

theorem carries_of_waveItem {image : Image} {number : UInt8} {instrument : Instrument}
    {item : StartupItem} (slot : number ∈ waveNumbers)
    (h : waveItem image number instrument = .ok item) :
    Carries image number instrument item ∧ item.Measured := by
  rw [waveItem, bind_eq_ok_iff] at h
  obtain ⟨sample, found, h⟩ := h
  obtain ⟨inside, rfl⟩ := instrument.sample_eq_ok_iff.1 found
  split at h
  · cases h
  rename_i flag flagged
  cases h
  rw [List.length_map, List.length_range] at flagged
  have form := waveFlag?_eq_some slot flagged
  have even : ((List.range instrument.length).map fun k =>
      image.byteAt (instrument.sampleOffset + k)).length % 2 = 0 := by
    rw [List.length_map, List.length_range]
    omega
  obtain ⟨nibbles, size⟩ := unpackNibbles_packNibbles even
  rw [List.map_map] at nibbles
  rw [List.length_map, List.length_range] at size
  rcases form with ⟨short, index, clear⟩ | ⟨long, index, set⟩
  · refine ⟨⟨inside, .inl short, ?_, nibbles⟩, ?_⟩
    · rw [index, short]
      rfl
    · rw [StartupItem.Measured, if_pos clear]
      omega
  · refine ⟨⟨inside, .inr long, ?_, nibbles⟩, ?_⟩
    · rw [index, if_pos long]
    · rw [StartupItem.Measured, if_neg set]
      omega

namespace Tune

variable (tune : Tune)

/-- The wave slots that hold an instrument. -/
def sampledSlots : List UInt8 := waveNumbers.filter fun number => (tune.instrument number).isSome

/-- The item carries the sample of the instrument in a slot. -/
def SlotItem (number : UInt8) (item : StartupItem) : Prop :=
  ∃ instrument, tune.instrument number = some instrument ∧
    Carries tune.image number instrument item

variable {tune}

/-- Slots without an instrument leave no item, the others one each, in order. -/
theorem slotItems_of_mapM {numbers : List UInt8} {slots : List (Option StartupItem)}
    (within : ∀ number ∈ numbers, number ∈ waveNumbers)
    (h : numbers.mapM (fun number => (tune.waveSlot number).outcome) = .ok slots) :
    List.Forall₂ tune.SlotItem (numbers.filter fun number => (tune.instrument number).isSome)
        (slots.filterMap id) ∧
      ∀ item ∈ slots.filterMap id, item.Measured := by
  rw [mapM_eq_ok_iff] at h
  induction h with
  | nil => exact ⟨.nil, by simp⟩
  | @cons number slot numbers slots first rest ih =>
      obtain ⟨items, measured⟩ := ih fun other member => within other (.tail _ member)
      rw [waveSlot_outcome] at first
      cases held : tune.instrument number with
      | none =>
          rw [held] at first
          cases first
          rw [List.filter_cons_of_neg (by simp [held])]
          exact ⟨items, measured⟩
      | some instrument =>
          rw [held] at first
          obtain ⟨item, made, rfl⟩ := map_eq_ok_iff.1 first
          obtain ⟨carries, length⟩ :=
            carries_of_waveItem (within number (.head _)) (mapError_eq_ok_iff.1 made)
          rw [List.filter_cons_of_pos (by simp [held])]
          refine ⟨.cons ⟨instrument, held, carries⟩ items, ?_⟩
          intro other member
          rcases List.mem_cons.1 member with rfl | later
          · exact length
          · exact measured other later

variable {o : Options}

/-- The items of a start-up stream. -/
theorem startup_eq_ok {stream : List UInt8} (h : (tune.startup o).outcome = .ok stream) :
    ∃ waves, stream = StartupItem.encode
        (.speed (Sound.playerSpeed tune.speed (o.convertsSpeed .screamTracker)) ::
          .panning tune.panning :: waves) ∧
      List.Forall₂ tune.SlotItem (if o.exportInstruments then tune.sampledSlots else []) waves ∧
      ∀ item ∈ waves, item.Measured := by
  rw [startup_outcome, bind_eq_ok_iff] at h
  obtain ⟨slots, listed, ⟨⟩⟩ := h
  have within : ∀ number ∈ (if o.exportInstruments then waveNumbers else []),
      number ∈ waveNumbers := by
    intro number member
    split at member
    · exact member
    · cases member
  obtain ⟨items, measured⟩ := slotItems_of_mapM within listed
  refine ⟨slots.filterMap id, rfl, ?_, measured⟩
  cases exported : o.exportInstruments with
  | true =>
      rw [exported] at items
      exact items
  | false =>
      rw [exported] at items
      exact items

end Tune

/-- What a song tells the player before its first row: its speed, the panning of
its channels and, if instruments are exported, the samples of those wave slots
that hold an instrument, in ascending order. -/
inductive TellsStart (o : Options) (image : Image) (tune : Tune) : List StartupItem → Prop
  | intro {speed : UInt8} {waves : List StartupItem}
      (speed_eq : speed = Sound.playerSpeed (image.byteAt 0x31) (o.convertsSpeed .screamTracker))
      (running : speed ≠ 0)
      (slots : List.Forall₂ (fun number item => ∃ instrument,
          tune.instrument number = some instrument ∧ Carries image number instrument item)
        (if o.exportInstruments then ([8, 9, 10, 11, 12, 13, 14, 15] : List UInt8).filter
          fun number => (tune.instrument number).isSome else []) waves) :
      TellsStart o image tune
        (.speed speed :: .panning (.ofFn fun c => Sound.panMask c (panAt image c)) :: waves)

/-- The start-up stream of a compiled song ends where its reading ends, whatever
comes behind it, and it is read in one way only: as what the song tells the
player before its first row. -/
theorem compile_startup_reads_back {o : Options} {image : Image} {name : String} {song : Song}
    (h : (compile o .screamTracker image name).outcome = .ok song) :
    ∃ tune stream items, Tune.parse image = .ok tune ∧ song.startup = some stream ∧
      TellsStart o image tune items ∧ StartupItem.decode? stream = some items ∧
      ∀ more items' rest, StartupItem.Reads (stream ++ more) items' rest ↔
        items' = items ∧ rest = more := by
  obtain ⟨tune, parsed, compiled⟩ := compile_eq_ok_iff_tune.1 h
  obtain ⟨valid, instruments, -, header⟩ := Tune.parse_eq_ok_iff.1 parsed
  obtain ⟨-, -, -, stream, started, given⟩ := Tune.compile_eq_ok_iff.1 compiled
  obtain ⟨waves, rfl, slots, measured⟩ := Tune.startup_eq_ok started
  have inImage : tune.image = image := by rw [header, headerOf]
  have speed : tune.speed = image.byteAt 0x31 := by rw [header, headerOf]
  have panning : tune.panning = .ofFn fun c => Sound.panMask c (panAt image c) := by
    apply PerChannel.ext_get
    intro c
    rw [Tune.panning, PerChannel.get_ofFn, PerChannel.get_ofFn, header, headerOf,
      PerChannel.get_ofFn]
  have allMeasured : ∀ item ∈ StartupItem.speed
      (Sound.playerSpeed tune.speed (o.convertsSpeed .screamTracker)) ::
        .panning tune.panning :: waves, item.Measured := by
    intro item member
    rcases List.mem_cons.1 member with rfl | member
    · trivial
    rcases List.mem_cons.1 member with rfl | member
    · trivial
    · exact measured item member
  have whole : StartupItem.Reads (StartupItem.encode _ ++ []) _ [] :=
    (StartupItem.reads_encode_iff allMeasured).2 ⟨rfl, rfl⟩
  rw [List.append_nil] at whole
  refine ⟨tune, _, _, parsed, given, ?_, StartupItem.decode?_eq_some_iff.2 whole,
    fun more items' rest => StartupItem.reads_encode_iff allMeasured⟩
  unfold Tune.SlotItem at slots
  simp only [inImage] at slots
  rw [speed, panning]
  exact .intro rfl (Sound.playerSpeed_ne_zero valid.speed _) slots

/-- The record of an instrument whose sample of the given length starts at a
paragraph. -/
def sampleRecord (paragraph length : UInt8) : List UInt8 :=
  sampledType :: (List.replicate 13 0 ++ [paragraph, 0, length, 0, 0, 0] ++
    List.replicate 56 0 ++ sampleSignature)

/-- The image of a song without patterns whose slots 8 and 9 hold a short and a
long sample, which are packed as bytes that look like tags, and whose channels
have pan positions of their own. -/
def twoSamples : Image := Array.mk <|
  List.replicate 28 0 ++ [nameMarker, 0, 0, 0, 0, 0, 9, 0, 0, 0, 0, 0, 0, 0, 0, 0] ++
    songSignature ++ [0, 6, playerTempo, 0, 0, customPanningFlag] ++ List.replicate 42 0 ++
    List.replicate 14 0 ++ [10, 0, 15, 0] ++ [0x20, 0x2F, 0x0F, 0x28] ++ List.replicate 42 0 ++
    sampleRecord 20 32 ++ sampleRecord 22 64 ++
    (List.replicate 16 [0x0F, 0x3F]).flatten ++ List.replicate 64 0x0F

theorem compile_twoSamples_reads_back :
    ∃ song, (compile { exportInstruments := true } .screamTracker twoSamples "short").outcome =
        .ok song ∧
      song.startup = some ([1, 6, 2, 0x10, 0x02, 0x44, 0x88, 3, 0] ++ List.replicate 16 0x03 ++
        [3, 0x81] ++ List.replicate 32 0 ++ [0]) ∧
      ∃ tune stream items, Tune.parse twoSamples = .ok tune ∧ song.startup = some stream ∧
        TellsStart { exportInstruments := true } twoSamples tune items ∧
        StartupItem.decode? stream = some items ∧
        ∀ more items' rest, StartupItem.Reads (stream ++ more) items' rest ↔
          items' = items ∧ rest = more := by
  have compiled : (compile { exportInstruments := true } .screamTracker twoSamples
      "short").outcome = .ok
        { name := "short"
          patterns := []
          startup := some ([1, 6, 2, 0x10, 0x02, 0x44, 0x88, 3, 0] ++ List.replicate 16 0x03 ++
            [3, 0x81] ++ List.replicate 32 0 ++ [0])
          orders := [] } := by decide +kernel
  exact ⟨_, compiled, rfl, compile_startup_reads_back compiled⟩

end ScreamTracker

end Chiptune

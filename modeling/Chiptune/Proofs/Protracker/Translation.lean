import Chiptune.Proofs.Compilation

/-!
# What a compiled Protracker song shows

A cell of these songs is four bytes, and everything that a channel shows in a
row comes from them. This module says what that is, and when an image can be
compiled at all: its header must be valid, and every pattern that is played must
be stored completely, with periods that the player has and without a speed of
zero. A compiled song then shows all its cells.
-/

namespace Chiptune

open Bytecode

namespace Protracker

/-- The four bytes of a cell. -/
structure Quad where
  first : UInt8
  second : UInt8
  third : UInt8
  fourth : UInt8

namespace Quad

def sample (q : Quad) : UInt8 := (q.first &&& (0xF0 : UInt8)) ||| (q.third >>> 4)

def period (q : Quad) : Nat := ((q.first.toNat &&& 0x0F) <<< 8) ||| q.second.toNat

def command (q : Quad) : UInt8 := q.third &&& 0x0F

def param (q : Quad) : UInt8 := q.fourth

/-- The four bytes of a channel in a row of a pattern. -/
def ofImage (image : Image) (pattern row : Nat) (c : Channel) : Quad :=
  let offset := 1084 + 1024 * pattern + 16 * row + 4 * (c.number - 1)
  ⟨image.byteAt offset, image.byteAt (offset + 1), image.byteAt (offset + 2),
    image.byteAt (offset + 3)⟩

end Quad

/-- The instrument that a channel shows beside its effect. -/
def shownInstrument : Channel → UInt8 → Option UInt8
  | .noise, _ => none
  | .wave, sample => if sample = 0 then none else some (sample &&& 7)
  | _, sample => if sample = 0 then none else some (sample &&& 3)

/-- The view shows what the four bytes of a cell say. -/
structure Plays (o : Options) (c : Channel) (q : Quad) (v : View) : Prop where
  channel : v.channel = c.number
  header : v.header = Command.headerFor (v.kit.or v.note) v.instrument v.action v.volume
  note : if c = .noise then v.note = none else noteOfPeriod q.period = .ok v.note
  kit : v.kit = if c = .noise ∧ q.sample ≠ 0 then some (q.sample &&& 15) else none
  instrument : v.instrument = shownInstrument c q.sample
  volume : v.volume = if q.command = 0xC then some (c.quantize q.param) else none
  action : if q.command = 0xC ∨ q.command = 0 ∧ q.param = 0 then v.action = none
    else ∃ meaning, (Tune.dialect o).protrackerAction c ⟨q.command, q.param⟩ = .ok meaning ∧
      v.action = meaning.toOption

/-- A cell can be played: its period is none or one of the player's, and it does
not set the speed to zero. -/
def Quad.Playable (q : Quad) : Prop :=
  (q.period = 0 ∨ 28 ≤ q.period ∧ q.period ≤ 1712) ∧ ¬ (q.command = 0xF ∧ q.param = 0)

/-- An image can be compiled. -/
structure Compilable (image : Image) : Prop where
  header : ValidHeader image
  stored : ∀ k < songLength image, 1084 + 1024 * (orderAt image k + 1) ≤ image.size
  playable : ∀ k < songLength image, ∀ row < 64, ∀ c,
    (Quad.ofImage image (orderAt image k) row c).Playable

def Quad.cell (q : Quad) : Cell := .ofBytes q.first q.second q.third q.fourth

theorem Quad.cell_period (q : Quad) : q.cell.period = q.period := by
  have low : q.second.toNat < 2 ^ 8 := q.second.toNat_lt
  rw [Quad.period, ← Nat.shiftLeft_add_eq_or_of_lt low, Nat.shiftLeft_eq,
    Nat.and_two_pow_sub_one_eq_mod q.first.toNat 4, Nat.mul_comm]
  rfl

theorem cellAt_eq (image : Image) (pattern row : Nat) (c : Channel) :
    cellAt image pattern row c = (Quad.ofImage image pattern row c).cell := by
  cases c <;> rfl

theorem exists_noteOfPeriod_iff {period : Nat} :
    (∃ note, noteOfPeriod period = .ok note) ↔ period = 0 ∨ 28 ≤ period ∧ period ≤ 1712 := by
  unfold noteOfPeriod shortestPeriod longestPeriod
  by_cases absent : period = 0
  · rw [if_pos absent]
    exact iff_of_true ⟨none, rfl⟩ (.inl absent)
  rw [if_neg absent]
  by_cases high : period < 28
  · rw [if_pos high]
    exact iff_of_false (fun h => nomatch h) (by omega)
  rw [if_neg high]
  by_cases low : 1712 < period
  · rw [if_pos low]
    exact iff_of_false (fun h => nomatch h) (by omega)
  · rw [if_neg low]
    exact iff_of_true ⟨_, rfl⟩ (by omega)

/-- Only a speed of zero is a fault. -/
theorem protrackerAction_eq_error_iff {d : Dialect} {c : Channel} {e : Effect} {fault : Fault} :
    d.protrackerAction c e = .error fault ↔
      (e.command = 0xF ∧ e.param = 0) ∧ fault = .zeroSpeed := by
  have speed : e.command.toNat = 0xF ↔ e.command = 0xF := by
    rw [← UInt8.toNat_inj]
    rfl
  rw [← speed]
  unfold Dialect.protrackerAction
  simp only
  split
  case h_5 h =>
    by_cases zero : e.param = 0
    · simp [h, zero, eq_comm]
    · by_cases tempo : Dialect.largestSpeed < e.param
      · simp [h, zero, tempo]
      · simp [h, zero, tempo]
  case h_4 h =>
    by_cases pan : e.high = 8
    · simp [h, pan]
    · by_cases cut : e.high = 0xC
      · simp [h, cut]
      · simp [h, pan, cut]
  case h_6 other =>
    have other : ¬ e.command.toNat = 0xF := other
    simp [other]
  all_goals simp [*]

namespace Quad

/-- The voice of a cell whose period stands for the given note. -/
def voice (q : Quad) (lead : Lead) (note : Option UInt8) : Voice where
  note := match lead with
    | .note => note.map .index
    | .kit => none
  instrument := q.sample
  volume := if q.command = 0xC then some q.param else none
  effect := if q.command = 0xC ∨ q.command = 0 ∧ q.param = 0 then none
    else some ⟨q.command, q.param⟩

variable {q : Quad} {o : Options} {c : Channel}

theorem voice_eq_ok_iff {lead : Lead} {v : Voice} :
    q.cell.voice lead = .ok v ↔
      ∃ note, noteOfPeriod q.period = .ok note ∧ v = q.voice lead note := by
  have effect : (if q.cell.effect.command = setVolume then none
      else if q.cell.hasEffect then some q.cell.effect else none) =
        if q.command = 0xC ∨ q.command = 0 ∧ q.param = 0 then none
          else some (⟨q.command, q.param⟩ : Effect) := by
    rw [show q.cell.effect = ⟨q.command, q.param⟩ from rfl, Cell.hasEffect,
      show q.cell.effect = ⟨q.command, q.param⟩ from rfl]
    by_cases volume : q.command = 0xC
    · simp [volume, setVolume]
    · by_cases command : q.command = 0
      · by_cases param : q.param = 0 <;> simp [setVolume, command, param]
      · simp [volume, setVolume, command]
  rw [Cell.voice, map_eq_ok_iff, Quad.cell_period, effect]
  constructor
  · intro h
    obtain ⟨note, hnote, rfl⟩ := h
    exact ⟨note, hnote, rfl⟩
  · intro h
    obtain ⟨note, hnote, rfl⟩ := h
    exact ⟨note, hnote, rfl⟩

theorem leadByte_voice (q : Quad) (c : Channel) (note : Option UInt8) :
    (q.voice c.lead note).leadByte c = .ok (if c = .noise then
      (if q.sample ≠ 0 then some (q.sample &&& 15) else none) else note) := by
  have pitched : ((note.map Note.index).map Note.byte) = note := by
    cases note <;> rfl
  cases c with
  | noise =>
      by_cases absent : q.sample = 0 <;>
        simp [Voice.leadByte, Voice.kit, voice, Channel.lead, Channel.instrumentMask, absent]
  | _ => exact congrArg Except.ok pitched

theorem action_voice (q : Quad) (o : Options) (c : Channel) (lead : Lead) (note : Option UInt8) :
    ((q.voice lead note).action (Tune.dialect o) c).outcome =
      if q.command = 0xC ∨ q.command = 0 ∧ q.param = 0 then .ok none
      else ((Tune.dialect o).protrackerAction c ⟨q.command, q.param⟩).map Except.toOption := by
  unfold Voice.action voice
  by_cases none : q.command = 0xC ∨ q.command = 0 ∧ q.param = 0
  · simp only [if_pos none]
    rfl
  · simp only [if_neg none]
    exact Dialect.outcome_protracker c _

/-- The effect of a cell has a meaning unless it sets the speed to zero. -/
theorem exists_action_voice_iff {lead : Lead} {note : Option UInt8} :
    (∃ action, ((q.voice lead note).action (Tune.dialect o) c).outcome = .ok action) ↔
      ¬ (q.command = 0xF ∧ q.param = 0) := by
  rw [action_voice]
  by_cases none : q.command = 0xC ∨ q.command = 0 ∧ q.param = 0
  · rw [if_pos none]
    refine iff_of_true ⟨_, rfl⟩ ?_
    intro zero
    rw [zero.1] at none
    simp at none
  · rw [if_neg none]
    simp only [map_eq_ok_iff]
    constructor
    · intro h zero
      obtain ⟨_, meaning, h, -⟩ := h
      rw [protrackerAction_eq_error_iff.2 ⟨zero, rfl⟩] at h
      cases h
    · intro played
      rcases exists_ok_or_error ((Tune.dialect o).protrackerAction c ⟨q.command, q.param⟩)
        with ⟨meaning, h⟩ | ⟨fault, h⟩
      · exact ⟨_, meaning, h, rfl⟩
      · exact absurd (protrackerAction_eq_error_iff.1 h).1 played

/-- A channel has a command exactly for the cells that can be played. -/
theorem exists_channelCommand_iff :
    (∃ command, channelCommand (Tune.dialect o) c (q.cell.voice c.lead) = .ok command) ↔
      q.Playable := by
  rw [Playable, ← exists_noteOfPeriod_iff]
  simp only [channelCommand, bind_eq_ok_iff, voice_eq_ok_iff, Voice.command]
  constructor
  · intro h
    obtain ⟨_, _, ⟨note, hnote, rfl⟩, _, -, action, ha, -⟩ := h
    exact ⟨⟨note, hnote⟩, exists_action_voice_iff.1 ⟨action, ha⟩⟩
  · intro h
    obtain ⟨⟨note, hnote⟩, played⟩ := h
    obtain ⟨action, ha⟩ := exists_action_voice_iff.2 played
    exact ⟨_, _, ⟨note, hnote, rfl⟩, _, leadByte_voice q c note, action, ha, rfl⟩

end Quad

/-- The bytes of a cell are shown as they are meant. -/
theorem plays_of_voice {o : Options} {c : Channel} {q : Quad} {v : Voice} {lead : Option UInt8}
    {action : Option Action} (hv : q.cell.voice c.lead = .ok v) (hl : v.leadByte c = .ok lead)
    (ha : (v.action (Tune.dialect o) c).outcome = .ok action) :
    Plays o c q (.ofFields c lead (v.instrumentField c) action (v.volume.map c.quantize)) := by
  obtain ⟨note, hnote, rfl⟩ := Quad.voice_eq_ok_iff.1 hv
  rw [Quad.leadByte_voice] at hl
  cases hl
  rw [Quad.action_voice] at ha
  constructor
  · rfl
  · exact View.ofFields_header _ _ _ _ _
  · rw [View.ofFields_note]
    by_cases noise : c = .noise
    · simp only [if_pos noise]
    · simp only [if_neg noise]
      exact hnote
  · rw [View.ofFields_kit]
    by_cases noise : c = .noise <;> simp [noise]
  · cases c <;> rfl
  · simp only [View.ofFields, Quad.voice]
    split <;> rfl
  · split
    · rename_i none
      rw [if_pos none] at ha
      cases ha
      rfl
    · rename_i some
      rw [if_neg some] at ha
      obtain ⟨meaning, hm, rfl⟩ := map_eq_ok_iff.1 ha
      exact ⟨meaning, hm, rfl⟩

namespace Tune

variable {tune : Tune} {o : Options}

theorem voiceAt_eq (tune : Tune) (index row : Nat) (c : Channel) :
    tune.voiceAt index row c = (Quad.ofImage tune.image index row c).cell.voice c.lead := by
  rw [voiceAt, cellAt_eq]

theorem exists_compile_iff {name : String} :
    (∃ song, (tune.compile o name).outcome = .ok song) ↔ ∀ p ∈ tune.orders,
      1084 + 1024 * (p + 1) ≤ tune.image.size ∧
        ∀ row < 64, ∀ c, (Quad.ofImage tune.image p row c).Playable := by
  simp only [compile_outcome, exists_bind_ok_eq_ok_iff, exists_mapM_eq_ok_iff, mem_played,
    exists_compilePattern_iff, voiceAt_eq, Quad.exists_channelCommand_iff, ← rows_stored_iff]
  constructor
  · intro h p ordered
    exact ⟨fun row inside => (h p ordered row inside).1,
      fun row inside => (h p ordered row inside).2⟩
  · intro h p ordered row inside
    exact ⟨(h p ordered).1 row inside, (h p ordered).2 row inside⟩

/-- A compiled song has every played pattern, and its rows show their cells. -/
theorem shows_cells_of_compile {name : String} {song : Song}
    (h : (tune.compile o name).outcome = .ok song) : song.startup = none ∧ ∀ p ∈ tune.orders,
      ∃ compiled, song.pattern? p = some compiled ∧ compiled.rows.length = 64 ∧
        ∀ (row : Nat) (hr : row < compiled.rows.length),
          ∃ views, decodeRow compiled.rows[row] = .ok views ∧
            ∀ c, Plays o c (.ofImage tune.image p row c) (views.get c) := by
  rw [compile_outcome, bind_eq_ok_iff] at h
  obtain ⟨patterns, compiled, h⟩ := h
  cases h
  refine ⟨rfl, ?_⟩
  intro p ordered
  have keepsIndex : ∀ p q, (tune.compilePattern o p).outcome = .ok q → q.index = p := by
    intro p q hq
    exact ((tune.compilePattern_eq_ok_iff o).1 hq).1
  obtain ⟨pattern, found, hp⟩ := exists_find?_of_forall₂ (mapM_eq_ok_iff.1 compiled) keepsIndex
    (tune.mem_played.2 ordered)
  obtain ⟨-, length, encoded⟩ := (tune.compilePattern_eq_ok_iff o).1 hp
  refine ⟨pattern, found, length, ?_⟩
  intro row hr
  obtain ⟨-, encoded⟩ := (tune.compileRow_eq_ok_iff o).1 (encoded row hr)
  obtain ⟨views, decoded, shown⟩ := decodeRow_of_encodeVoices encoded
  refine ⟨views, decoded, ?_⟩
  intro c
  obtain ⟨v, lead, action, hv, hl, ha, view⟩ := shown c
  rw [voiceAt_eq] at hv
  rw [view]
  exact plays_of_voice hv hl ha

end Tune

theorem compile_outcome_eq_ok_iff {o : Options} {image : Image} {name : String} {song : Song} :
    (compile o .protracker image name).outcome = .ok song ↔ ValidHeader image ∧
      ((headerOf image).compile o name).outcome = .ok song := by
  rw [compile_eq_ok_iff_tune]
  simp only [Tune.parse_eq_ok_iff]
  constructor
  · intro h
    obtain ⟨_, ⟨valid, rfl⟩, compiled⟩ := h
    exact ⟨valid, compiled⟩
  · intro h
    exact ⟨_, ⟨h.1, rfl⟩, h.2⟩

/-- An image is compiled exactly if it is compilable, whatever the options. The
song then has no start-up stream, and every row of every played pattern reads
back as what its four cells say. -/
theorem compile_accepts_and_shows_cells (o : Options) (image : Image) (name : String) :
    ((∃ song, (compile o .protracker image name).outcome = .ok song) ↔ Compilable image) ∧
      ∀ song, (compile o .protracker image name).outcome = .ok song →
        song.startup = none ∧ ∀ k < songLength image,
          ∃ compiled, song.pattern? (orderAt image k) = some compiled ∧
            compiled.rows.length = 64 ∧
            ∀ (row : Nat) (hr : row < compiled.rows.length),
              ∃ views, decodeRow compiled.rows[row] = .ok views ∧
                ∀ c, Plays o c (.ofImage image (orderAt image k) row c) (views.get c) := by
  simp only [compile_outcome_eq_ok_iff]
  constructor
  · rw [exists_and_left, Tune.exists_compile_iff]
    constructor
    · intro h
      obtain ⟨valid, played⟩ := h
      have ordered : ∀ k < songLength image, orderAt image k ∈ (headerOf image).orders := by
        intro k hk
        exact (Tune.mem_orders_headerOf valid).2 ⟨k, hk, rfl⟩
      exact ⟨valid, fun k hk => (played _ (ordered k hk)).1,
        fun k hk => (played _ (ordered k hk)).2⟩
    · intro h
      obtain ⟨valid, stored, playable⟩ := h
      refine ⟨valid, ?_⟩
      intro p ordered
      obtain ⟨k, hk, rfl⟩ := (Tune.mem_orders_headerOf valid).1 ordered
      exact ⟨stored k hk, playable k hk⟩
  · intro song h
    obtain ⟨valid, compiled⟩ := h
    obtain ⟨startup, shown⟩ := Tune.shows_cells_of_compile compiled
    refine ⟨startup, ?_⟩
    intro k hk
    exact shown _ ((Tune.mem_orders_headerOf valid).2 ⟨k, hk, rfl⟩)

end Protracker

end Chiptune

import Chiptune.Proofs.Bytecode.RoundTrip
import Chiptune.Voice

/-!
# Rows of voices

A channel either has a command for its voice or a fault. A row is encoded
exactly if every channel has a command, and then its bytes read back as what
these commands show; otherwise the first channel with a fault decides, in the
order in which the channels are played.
-/

namespace Chiptune

open Bytecode

namespace Channel

theorem instrumentMask_and_lt (c : Channel) (i : UInt8) : i &&& c.instrumentMask < 16 := by
  revert i
  apply forall_byte
  cases c <;> decide +kernel

/-- Every channel has at most sixteen levels. -/
theorem quantize_lt (c : Channel) (volume : UInt8) : c.quantize volume < 16 := by
  revert volume
  apply forall_byte
  cases c <;> decide +kernel

end Channel

/-- Whether an effect was dropped with a warning does not show in the outcome. -/
theorem Dialect.outcome_protracker {convert : Bool} (c : Channel) (e : Effect) :
    (Dialect.action ⟨.protracker, convert⟩ c e).outcome =
      (Dialect.protrackerAction ⟨.protracker, convert⟩ c e).map Except.toOption := by
  unfold Dialect.action
  simp only
  cases Dialect.protrackerAction _ c e with
  | error fault => rfl
  | ok meaning => cases meaning <;> rfl

namespace Voice

/-- The command of a voice, without the warnings of its effect. -/
def command (d : Dialect) (c : Channel) (v : Voice) : Except Fault Command := do
  let lead ← v.leadByte c
  let action ← (v.action d c).outcome
  .ok (.assemble lead (v.instrumentField c) action (v.volume.map c.quantize))

theorem encode_outcome (d : Dialect) (c : Channel) (v : Voice) :
    (v.encode d c).outcome = v.command d c := by
  simp only [encode, command, Journal.bind_outcome, Journal.ofExcept_outcome]
  rfl

theorem leadByte_pitched {c : Channel} {v : Voice} (pitched : c ≠ .noise) :
    v.leadByte c = .ok (v.note.map Note.byte) := by
  rw [leadByte, Channel.lead_of_ne_noise pitched]

theorem instrumentField_lt (c : Channel) (v : Voice) : ∀ i ∈ v.instrumentField c, i < 16 := by
  intro i hi
  unfold instrumentField at hi
  split at hi
  · split at hi <;> cases hi
    exact c.instrumentMask_and_lt _
  · cases hi

theorem level_lt (c : Channel) (v : Voice) : ∀ level ∈ v.volume.map c.quantize, level < 16 := by
  intro level hlevel
  obtain ⟨volume, -, rfl⟩ := Option.map_eq_some_iff.1 hlevel
  exact c.quantize_lt volume

/-- A command shows the lead byte, the instrument, the effect and the level of
its voice. -/
theorem shows_of_command {d : Dialect} {c : Channel} {v : Voice} {command : Command}
    (h : v.command d c = .ok command) : ∃ lead action, v.leadByte c = .ok lead ∧
      (v.action d c).outcome = .ok action ∧ Shows c command
        (.ofFields c lead (v.instrumentField c) action (v.volume.map c.quantize)) := by
  simp only [Voice.command, bind_eq_ok_iff] at h
  obtain ⟨lead, hl, action, ha, ⟨⟩⟩ := h
  exact ⟨lead, action, hl, ha, shows_assemble c (v.instrumentField_lt c) (v.level_lt c)⟩

end Voice

/-- The command of a channel whose cell gives the voice, or the first fault. -/
def channelCommand (d : Dialect) (c : Channel) (voice : Except Fault Voice) :
    Except Fault Command := do
  (← voice).command d c

theorem encodeVoice_outcome (d : Dialect) (place : Place) (voice : Except Fault Voice) :
    (encodeVoice d place voice).outcome =
      (channelCommand d place.channel voice).mapError (Failure.cell place) := by
  simp only [encodeVoice, Journal.mapError_outcome, Journal.bind_outcome,
    Journal.ofExcept_outcome, Voice.encode_outcome]
  rfl

variable {d : Dialect} {pattern row : Nat} {voice : Channel → Except Fault Voice}

theorem encodeVoices_eq_ok_iff {bytes : List UInt8} :
    (encodeVoices d pattern row voice).outcome = .ok bytes ↔ ∃ commands : PerChannel Command,
      (∀ c, channelCommand d c (voice c) = .ok (commands.get c)) ∧
        bytes = encodeRow commands := by
  simp only [encodeVoices, Journal.bind_outcome, encodeVoice_outcome, bind_eq_ok_iff,
    mapError_eq_ok_iff]
  constructor
  · intro h
    obtain ⟨c₁, h₁, c₂, h₂, c₃, h₃, c₄, h₄, ⟨⟩⟩ := h
    refine ⟨⟨c₁, c₂, c₃, c₄⟩, ?_, rfl⟩
    intro c
    cases c with
    | pulse1 => exact h₁
    | pulse2 => exact h₂
    | wave => exact h₃
    | noise => exact h₄
  · intro h
    obtain ⟨commands, h, rfl⟩ := h
    exact ⟨_, h .pulse1, _, h .pulse2, _, h .wave, _, h .noise, rfl⟩

theorem exists_encodeVoices_iff :
    (∃ bytes, (encodeVoices d pattern row voice).outcome = .ok bytes) ↔
      ∀ c, ∃ command, channelCommand d c (voice c) = .ok command := by
  simp only [encodeVoices_eq_ok_iff]
  constructor
  · intro h c
    obtain ⟨_, commands, encoded, -⟩ := h
    exact ⟨_, encoded c⟩
  · intro h
    choose command encoded using h
    refine ⟨_, .ofFn command, ?_, rfl⟩
    intro c
    rw [PerChannel.get_ofFn]
    exact encoded c

/-- A row fails at the first of its channels that has no command. -/
theorem encodeVoices_eq_error_iff {failure : Failure} :
    (encodeVoices d pattern row voice).outcome = .error failure ↔ ∃ (c : Channel) (fault : Fault),
      failure = .cell ⟨pattern, row, c⟩ fault ∧ channelCommand d c (voice c) = .error fault ∧
        ∀ c' : Channel, c'.index < c.index →
          ∃ command, channelCommand d c' (voice c') = .ok command := by
  simp only [encodeVoices, Journal.bind_outcome, encodeVoice_outcome, bind_eq_error_iff,
    mapError_eq_ok_iff, mapError_eq_error_iff]
  constructor
  · intro h
    rcases h with ⟨f, h, rfl⟩ | ⟨c₁, h₁, ⟨f, h, rfl⟩ | ⟨c₂, h₂, ⟨f, h, rfl⟩ |
      ⟨c₃, h₃, ⟨f, h, rfl⟩ | ⟨c₄, h₄, ⟨⟩⟩⟩⟩⟩
    · refine ⟨.pulse1, f, rfl, h, ?_⟩
      intro c lt
      cases c <;> simp [Channel.index] at lt
    · refine ⟨.pulse2, f, rfl, h, ?_⟩
      intro c lt
      cases c <;> simp [Channel.index] at lt
      exact ⟨_, h₁⟩
    · refine ⟨.wave, f, rfl, h, ?_⟩
      intro c lt
      cases c <;> simp [Channel.index] at lt
      · exact ⟨_, h₁⟩
      · exact ⟨_, h₂⟩
    · refine ⟨.noise, f, rfl, h, ?_⟩
      intro c lt
      cases c <;> simp [Channel.index] at lt
      · exact ⟨_, h₁⟩
      · exact ⟨_, h₂⟩
      · exact ⟨_, h₃⟩
  · intro h
    obtain ⟨c, f, rfl, h, before⟩ := h
    cases c with
    | pulse1 => exact .inl ⟨f, h, rfl⟩
    | pulse2 =>
        obtain ⟨c₁, h₁⟩ := before .pulse1 (by decide)
        exact .inr ⟨c₁, h₁, .inl ⟨f, h, rfl⟩⟩
    | wave =>
        obtain ⟨c₁, h₁⟩ := before .pulse1 (by decide)
        obtain ⟨c₂, h₂⟩ := before .pulse2 (by decide)
        exact .inr ⟨c₁, h₁, .inr ⟨c₂, h₂, .inl ⟨f, h, rfl⟩⟩⟩
    | noise =>
        obtain ⟨c₁, h₁⟩ := before .pulse1 (by decide)
        obtain ⟨c₂, h₂⟩ := before .pulse2 (by decide)
        obtain ⟨c₃, h₃⟩ := before .wave (by decide)
        exact .inr ⟨c₁, h₁, .inr ⟨c₂, h₂, .inr ⟨c₃, h₃, .inl ⟨f, h, rfl⟩⟩⟩⟩

/-- An encoded row reads back as what the commands of its voices show. -/
theorem decodeRow_of_encodeVoices {bytes : List UInt8}
    (h : (encodeVoices d pattern row voice).outcome = .ok bytes) :
    ∃ views : PerChannel View, decodeRow bytes = .ok views ∧
      ∀ c, ∃ v lead action, voice c = .ok v ∧ v.leadByte c = .ok lead ∧
        (v.action d c).outcome = .ok action ∧ views.get c =
          .ofFields c lead (v.instrumentField c) action (v.volume.map c.quantize) := by
  obtain ⟨commands, encoded, rfl⟩ := encodeVoices_eq_ok_iff.1 h
  -- no command needs to know what follows it, so the channels can be told apart
  have shown : ∀ c, ∃ view, Shows c (commands.get c) view ∧ ∃ v lead action,
      voice c = .ok v ∧ v.leadByte c = .ok lead ∧ (v.action d c).outcome = .ok action ∧
        view = .ofFields c lead (v.instrumentField c) action (v.volume.map c.quantize) := by
    intro c
    obtain ⟨v, hv, hc⟩ := bind_eq_ok_iff.1 (encoded c)
    obtain ⟨lead, action, hl, ha, shows⟩ := Voice.shows_of_command hc
    exact ⟨_, shows, v, lead, action, hv, hl, ha, rfl⟩
  choose view shows fields using shown
  refine ⟨.ofFn view, decodeRow_encodeRow fun c => ?_, fun c => ?_⟩
  · rw [PerChannel.get_ofFn]
    exact shows c
  · rw [PerChannel.get_ofFn]
    exact fields c

end Chiptune

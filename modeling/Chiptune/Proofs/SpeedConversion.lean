import Chiptune.Proofs.Bytecode.Splitting
import Chiptune.Proofs.Compilation
import Chiptune.Proofs.ScreamTracker.Layout
import Chiptune.Proofs.Sound
import Chiptune.Proofs.TwoRuns

/-!
# What the conversion of speeds changes

An image may be compiled twice, once with its own speeds and once with speeds in
ticks of the player. Both runs fail for the same reason, or they give songs that
differ in speeds and in nothing else: each command is the same in both, unless it
sets a speed, in which case its last byte differs, and in the start-up stream the
second byte differs. No command becomes longer or shorter.
-/

namespace Chiptune

open Bytecode

/-- The ticks of the player that last as long as a speed in fiftieths of a
second; a speed that is too slow becomes the slowest one. -/
structure InTicks (speed ticks : UInt8) : Prop where
  running : 1 ≤ speed
  ticks_eq : ticks.toNat = min 255 (6 * speed.toNat / 5)

/-- The commands of a channel before and after the conversion. -/
inductive CommandConverted (c : Channel) : List UInt8 → List UInt8 → Prop
  /-- A command with no effect or with another one is kept. -/
  | kept {bytes : List UInt8} {view : View} (shown : View.decode c.number bytes = .ok view)
      (other : ∀ action ∈ view.action, action.opcode ≠ .speed) : CommandConverted c bytes bytes
  /-- The parameter of a speed, which is the last byte, is converted. -/
  | speed {front : List UInt8} {speed ticks : UInt8} {view : View}
      (shown : View.decode c.number (front ++ [speed]) = .ok view)
      (effect : view.action = some ⟨.speed, speed⟩)
      (shownAfter : View.decode c.number (front ++ [ticks]) =
        .ok { view with action := some ⟨.speed, ticks⟩ })
      (converted : InTicks speed ticks) : CommandConverted c (front ++ [speed]) (front ++ [ticks])

/-- Rows of four commands before and after the conversion. -/
inductive RowConverted : List UInt8 → List UInt8 → Prop
  | intro {row row' : List UInt8} {pieces pieces' : PerChannel (List UInt8)}
      (splits : Splits row pieces) (splits' : Splits row' pieces')
      (commands : ∀ c, CommandConverted c (pieces.get c) (pieces'.get c)) : RowConverted row row'

/-- Patterns before and after the conversion. -/
structure PatternConverted (p p' : Song.Pattern) : Prop where
  index : p'.index = p.index
  lengths : p'.rows.map List.length = p.rows.map List.length
  rows : List.Forall₂ RowConverted p.rows p'.rows

/-- Start-up streams before and after the conversion; Protracker songs have none. -/
inductive StartupConverted : Format → Option (List UInt8) → Option (List UInt8) → Prop
  | screamTracker {tag speed ticks : UInt8} {rest : List UInt8}
      (converted : InTicks speed ticks) :
      StartupConverted .screamTracker (some (tag :: speed :: rest)) (some (tag :: ticks :: rest))
  | protracker : StartupConverted .protracker none none

/-- Songs before and after the conversion. -/
structure SongConverted (format : Format) (song song' : Song) : Prop where
  name : song'.name = song.name
  orders : song'.orders = song.orders
  patterns : List.Forall₂ PatternConverted song.patterns song'.patterns
  startup : StartupConverted format song.startup song'.startup

theorem inTicks_playerSpeed {speed : UInt8} (nonzero : speed ≠ 0) :
    InTicks (Sound.playerSpeed speed false) (Sound.playerSpeed speed true) := by
  have running : 1 ≤ speed.toNat :=
    Nat.one_le_iff_ne_zero.2 fun zero => nonzero (UInt8.toNat_inj.1 zero)
  constructor
  · rw [UInt8.le_iff_toNat_le]
    exact running
  · have small : min (speed.toNat * 60 / 50) 255 < UInt8.size :=
      Nat.lt_of_le_of_lt (Nat.min_le_right _ _) (by decide)
    rw [Sound.playerSpeed, if_pos rfl, UInt8.toNat_ofNat_of_lt' small, Sound.playerSpeed,
      if_neg Bool.false_ne_true]
    omega

/-- The effects of the player before and after the conversion. -/
inductive ActionConverted : Action → Action → Prop
  | kept {action : Action} (other : action.opcode ≠ .speed) : ActionConverted action action
  | speed {speed ticks : UInt8} (converted : InTicks speed ticks) :
      ActionConverted ⟨.speed, speed⟩ ⟨.speed, ticks⟩

theorem slideAction_opcode {c : Channel} {param : UInt8} {action : Action}
    (h : slideAction c param = .ok (some action)) : action.opcode = .volumeSlide := by
  unfold slideAction at h
  simp only at h
  repeat' split at h
  all_goals cases h
  all_goals rfl

/-- An effect other than a speed is the same in both runs. -/
theorem alike_kept {action : Action} (other : action.opcode ≠ .speed) :
    Alike (Option.Rel ActionConverted) (.ok (some action) : Except Fault (Option Action))
      (.ok (some action)) :=
  .ok (.some (.kept other))

theorem alike_slideAction (c : Channel) (param : UInt8) :
    Alike (Option.Rel ActionConverted) (slideAction c param) (slideAction c param) := by
  apply Alike.refl
  intro action given
  cases action with
  | none => exact .none
  | some action =>
      refine .some (.kept ?_)
      rw [slideAction_opcode given]
      exact nofun

namespace Dialect

theorem alike_screamTrackerAction (format : Format) (c : Channel) (e : Effect) :
    Alike (Option.Rel ActionConverted) (screamTrackerAction ⟨format, false⟩ c e)
      (screamTrackerAction ⟨format, true⟩ c e) := by
  unfold screamTrackerAction
  simp only
  -- only the first letter, which sets a speed, looks at the conversion
  split
  · split
    · exact .error _
    · rename_i nonzero
      exact .ok (.some (.speed (inTicks_playerSpeed nonzero)))
  · exact alike_kept nofun
  · exact alike_kept nofun
  · exact alike_slideAction c e.param
  · exact alike_kept nofun
  · exact alike_kept nofun
  · split
    · exact alike_kept nofun
    split
    · exact alike_kept nofun
    split
    · exact alike_kept nofun
    · exact .error _
  · exact .error _

/-- An effect that is dropped is dropped with the same warning. -/
theorem alike_protrackerAction (format : Format) (c : Channel) (e : Effect) :
    Alike (Alike ActionConverted) (protrackerAction ⟨format, false⟩ c e)
      (protrackerAction ⟨format, true⟩ c e) := by
  unfold protrackerAction
  simp only
  split
  · exact .ok (.ok (.kept nofun))
  · exact .ok (.ok (.kept nofun))
  · exact .ok (.ok (.kept nofun))
  · split
    · exact .ok (.ok (.kept nofun))
    split
    · exact .ok (.ok (.kept nofun))
    · exact .ok (.error _)
  · split
    · exact .error _
    rename_i nonzero
    split
    · exact .ok (.error _)
    · exact .ok (.ok (.speed (inTicks_playerSpeed nonzero)))
  · exact .ok (.error _)

theorem alike_action (format : Format) (c : Channel) (e : Effect) :
    Alike (Option.Rel ActionConverted) (action ⟨format, false⟩ c e).outcome
      (action ⟨format, true⟩ c e).outcome := by
  cases format with
  | screamTracker => exact alike_screamTrackerAction .screamTracker c e
  | protracker =>
      rw [outcome_protracker, outcome_protracker]
      apply (alike_protrackerAction .protracker c e).map
      intro meaning meaning' related
      exact related.toOption

end Dialect

/-- The commands of a channel are read back, and differ by the conversion. -/
structure SlotConverted (c : Channel) (command command' : Command) : Prop where
  isCommand : IsCommand command.toBytes
  isCommand' : IsCommand command'.toBytes
  converted : CommandConverted c command.toBytes command'.toBytes

/-- A command that sets a speed, without the speed. -/
def speedFront (lead instrument volume : Option UInt8) : List UInt8 :=
  Command.headerFor lead instrument (some ⟨.speed, 0⟩) volume ::
    (lead.toList ++ Command.sharedByte instrument (some ⟨.speed, 0⟩))

/-- The header and the shared byte of a command do not depend on its parameter. -/
theorem toBytes_speed (lead instrument volume : Option UInt8) (speed : UInt8) :
    (Command.assemble lead instrument (some ⟨.speed, speed⟩) volume).toBytes =
      speedFront lead instrument volume ++ [speed] := by
  rw [Command.toBytes_assemble, Command.bodyFor]
  cases instrument <;> rfl

/-- Commands that are assembled from the same fields, but for the conversion of
their effects, differ by the conversion. -/
theorem slotConverted_assemble {c : Channel} {lead instrument : Option UInt8}
    {action action' : Option Action} {volume : Option UInt8} (hi : ∀ i ∈ instrument, i < 16)
    (hv : ∀ v ∈ volume, v < 16) (related : Option.Rel ActionConverted action action') :
    SlotConverted c (.assemble lead instrument action volume)
      (.assemble lead instrument action' volume) := by
  have shown (action : Option Action) :
      View.decode c.number (Command.assemble lead instrument action volume).toBytes =
        .ok (.ofFields c lead instrument action volume) := View.decode_assemble c hi hv
  refine ⟨isCommand_assemble (shown action), isCommand_assemble (shown action'), ?_⟩
  cases related with
  | none => exact .kept (shown none) nofun
  | some related =>
      cases related with
      | kept other =>
          refine .kept (shown _) ?_
          intro action given
          cases given
          exact other
      | @speed speed ticks converted =>
          have before := shown (some ⟨.speed, speed⟩)
          have after := shown (some ⟨.speed, ticks⟩)
          rw [toBytes_speed] at before after
          rw [toBytes_speed, toBytes_speed]
          exact .speed before rfl after converted

theorem Voice.alike_command (format : Format) (c : Channel) (v : Voice) :
    Alike (SlotConverted c) (v.command ⟨format, false⟩ c) (v.command ⟨format, true⟩ c) := by
  have action : Alike (Option.Rel ActionConverted) (v.action ⟨format, false⟩ c).outcome
      (v.action ⟨format, true⟩ c).outcome := by
    unfold Voice.action
    cases v.effect with
    | none => exact .ok .none
    | some e => exact Dialect.alike_action format c e
  apply Alike.bind_self
  intro lead _
  apply action.bind
  intro action action' related
  exact .ok (slotConverted_assemble (v.instrumentField_lt c) (v.level_lt c) related)

theorem CommandConverted.length_eq {c : Channel} {bytes bytes' : List UInt8}
    (h : CommandConverted c bytes bytes') : bytes'.length = bytes.length := by
  cases h with
  | kept shown other => rfl
  | speed shown effect shownAfter converted => simp

/-- No row becomes longer or shorter. -/
theorem RowConverted.length_eq {row row' : List UInt8} (h : RowConverted row row') :
    row'.length = row.length := by
  obtain ⟨splits, splits', commands⟩ := h
  have pulse1 := (commands .pulse1).length_eq
  have pulse2 := (commands .pulse2).length_eq
  have wave := (commands .wave).length_eq
  have noise := (commands .noise).length_eq
  simp only [PerChannel.get] at pulse1 pulse2 wave noise
  rw [splits.concat, splits'.concat]
  simp only [List.length_append, pulse1, pulse2, wave, noise]

theorem rowConverted_encodeRow {commands commands' : PerChannel Command}
    (related : ∀ c, SlotConverted c (commands.get c) (commands'.get c)) :
    RowConverted (encodeRow commands) (encodeRow commands') := by
  refine .intro (splits_encodeRow fun c => (related c).isCommand)
    (splits_encodeRow fun c => (related c).isCommand') fun c => ?_
  rw [PerChannel.get_ofFn, PerChannel.get_ofFn]
  exact (related c).converted

theorem alike_encodeVoice (format : Format) (place : Place) (voice : Except Fault Voice) :
    Alike (SlotConverted place.channel) (encodeVoice ⟨format, false⟩ place voice).outcome
      (encodeVoice ⟨format, true⟩ place voice).outcome := by
  rw [encodeVoice_outcome, encodeVoice_outcome]
  apply Alike.mapError
  apply Alike.bind_self
  intro v _
  exact v.alike_command format place.channel

theorem alike_encodeVoices (format : Format) (pattern row : Nat)
    (voice : Channel → Except Fault Voice) :
    Alike RowConverted (encodeVoices ⟨format, false⟩ pattern row voice).outcome
      (encodeVoices ⟨format, true⟩ pattern row voice).outcome := by
  have alike (c : Channel) := alike_encodeVoice format ⟨pattern, row, c⟩ (voice c)
  simp only [encodeVoices, Journal.bind_outcome]
  apply (alike .pulse1).bind
  intro pulse1 pulse1' first
  apply (alike .pulse2).bind
  intro pulse2 pulse2' second
  apply (alike .wave).bind
  intro wave wave' third
  apply (alike .noise).bind
  intro noise noise' fourth
  exact .ok (rowConverted_encodeRow (Channel.forall_iff.2 ⟨first, second, third, fourth⟩))

theorem patternConverted_of_rows {index : Nat} {rows rows' : List (List UInt8)}
    (related : List.Forall₂ RowConverted rows rows') :
    PatternConverted ⟨index, rows⟩ ⟨index, rows'⟩ := by
  refine ⟨rfl, ?_, related⟩
  induction related with
  | nil => rfl
  | cons first rest ih => rw [List.map_cons, List.map_cons, first.length_eq, ih]

namespace ScreamTracker.Tune

variable (tune : Tune) (exportInstruments : Bool)

theorem alike_compilePattern (index : Nat) :
    Alike PatternConverted (tune.compilePattern ⟨some false, exportInstruments⟩ index).outcome
      (tune.compilePattern ⟨some true, exportInstruments⟩ index).outcome := by
  rw [compilePattern_outcome, compilePattern_outcome]
  apply Alike.bind_self
  intro source _
  have rows (row : Nat) := alike_encodeVoices .screamTracker index row (tune.voiceAt source row)
  apply (Alike.mapM fun row _ => rows row).bind
  intro rows rows' related
  exact .ok (patternConverted_of_rows related)

theorem alike_startup (running : tune.speed ≠ 0) :
    Alike (fun stream stream' => StartupConverted .screamTracker (some stream) (some stream'))
      (tune.startup ⟨some false, exportInstruments⟩).outcome
      (tune.startup ⟨some true, exportInstruments⟩).outcome := by
  rw [startup_outcome, startup_outcome]
  apply Alike.bind_self
  intro waves _
  exact .ok (.screamTracker (inTicks_playerSpeed running))

theorem alike_compile (running : tune.speed ≠ 0) (name : String) :
    Alike (SongConverted .screamTracker)
      (tune.compile ⟨some false, exportInstruments⟩ name).outcome
      (tune.compile ⟨some true, exportInstruments⟩ name).outcome := by
  rw [compile_outcome, compile_outcome]
  apply (Alike.mapM fun index _ => tune.alike_compilePattern exportInstruments index).bind
  intro patterns patterns' related
  apply (tune.alike_startup exportInstruments running).bind
  intro stream stream' started
  exact .ok ⟨rfl, rfl, related, started⟩

end ScreamTracker.Tune

namespace Protracker.Tune

variable (tune : Tune) (exportInstruments : Bool)

theorem alike_compilePattern (index : Nat) :
    Alike PatternConverted (tune.compilePattern ⟨some false, exportInstruments⟩ index).outcome
      (tune.compilePattern ⟨some true, exportInstruments⟩ index).outcome := by
  have row (row : Nat) :
      Alike RowConverted (tune.compileRow ⟨some false, exportInstruments⟩ index row).outcome
        (tune.compileRow ⟨some true, exportInstruments⟩ index row).outcome := by
    rw [compileRow_outcome, compileRow_outcome]
    apply Alike.bind_self
    intro _ _
    exact alike_encodeVoices .protracker index row (tune.voiceAt index row)
  rw [compilePattern_outcome, compilePattern_outcome]
  apply (Alike.mapM fun k _ => row k).bind
  intro rows rows' related
  exact .ok (patternConverted_of_rows related)

theorem alike_compile (name : String) :
    Alike (SongConverted .protracker)
      (tune.compile ⟨some false, exportInstruments⟩ name).outcome
      (tune.compile ⟨some true, exportInstruments⟩ name).outcome := by
  rw [compile_outcome, compile_outcome]
  apply (Alike.mapM fun index _ => tune.alike_compilePattern exportInstruments index).bind
  intro patterns patterns' related
  exact .ok ⟨rfl, rfl, related, .protracker⟩

end Protracker.Tune

/-- Speeds are all that their conversion changes: whatever the image, both runs
fail with the same cause or give songs that agree but for their speeds. -/
theorem compile_converts_speeds_only (format : Format) (image : Image) (name : String)
    (exportInstruments : Bool) :
    Alike (SongConverted format)
      (compile ⟨some false, exportInstruments⟩ format image name).outcome
      (compile ⟨some true, exportInstruments⟩ format image name).outcome := by
  cases format with
  | screamTracker =>
      rw [ScreamTracker.compile_outcome_tune, ScreamTracker.compile_outcome_tune]
      apply Alike.bind_self
      intro tune parsed
      obtain ⟨valid, instruments, -, rfl⟩ :=
        ScreamTracker.Tune.parse_eq_ok_iff.1 (mapError_eq_ok_iff.1 parsed)
      exact ScreamTracker.Tune.alike_compile _ exportInstruments valid.speed name
  | protracker =>
      rw [Protracker.compile_outcome_tune, Protracker.compile_outcome_tune]
      apply Alike.bind_self
      intro tune _
      exact tune.alike_compile exportInstruments name

/-- The image of a song with one row: a speed, a vibrato with the same parameter,
and a speed that is too slow to be converted. -/
def speedRow : Image := ScreamTracker.onePatternImage
  [0x80, 1, 6, 0x82, 8, 6, 0x83, 1, 0xFF, 0]

theorem compile_speedRow_converts_speeds_only :
    ∃ song song', (compile ⟨some false, false⟩ .screamTracker speedRow "short").outcome = .ok song ∧
      (compile ⟨some true, false⟩ .screamTracker speedRow "short").outcome = .ok song' ∧
      song.patterns = [⟨0, [[0x40, 0x0A, 6, 0, 0x40, 0x03, 6, 0x40, 0x0A, 0xFF]]⟩] ∧
      song'.patterns = [⟨0, [[0x40, 0x0A, 7, 0, 0x40, 0x03, 6, 0x40, 0x0A, 0xFF]]⟩] ∧
      SongConverted .screamTracker song song' := by
  have compiled : (compile ⟨some false, false⟩ .screamTracker speedRow "short").outcome = .ok
      { name := "short"
        patterns := [⟨0, [[0x40, 0x0A, 6, 0, 0x40, 0x03, 6, 0x40, 0x0A, 0xFF]]⟩]
        startup := some [1, 6, 2, 0x11, 0x22, 0x44, 0x88, 0]
        orders := [0] } := by decide +kernel
  have converted : (compile ⟨some true, false⟩ .screamTracker speedRow "short").outcome = .ok
      { name := "short"
        patterns := [⟨0, [[0x40, 0x0A, 7, 0, 0x40, 0x03, 6, 0x40, 0x0A, 0xFF]]⟩]
        startup := some [1, 7, 2, 0x11, 0x22, 0x44, 0x88, 0]
        orders := [0] } := by decide +kernel
  have alike := compile_converts_speeds_only .screamTracker speedRow "short" false
  rw [compiled, converted] at alike
  cases alike with
  | ok related => exact ⟨_, _, compiled, converted, rfl, rfl, related⟩

end Chiptune

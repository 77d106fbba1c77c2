import Chiptune.Proofs.Bytecode.RoundTrip

/-!
# Splitting a row

Nothing separates the commands of a row. This module says which byte strings are
one command, by a table of lengths and by the numbers of the player's effects,
and proves that a row is decoded exactly if it is four of them. Where a command
ends follows from its first byte. A row is therefore split in one way only, and
a decoded row is neither the beginning nor the continuation of another one.
-/

namespace Chiptune.Bytecode

/-- The lengths of commands by the three upper bits of their header, which
announce the lead byte, the effect and the instrument. -/
def lengthTable : List Nat := [1, 2, 3, 3, 2, 3, 4, 4]

/-- The numbers of the player's effects. -/
def effectNumbers : List UInt8 := [0, 1, 2, 3, 4, 8, 9, 10, 15]

/-- The byte behind the header and the lead byte, if there is a lead byte. -/
def sharedOf (header : UInt8) (body : List UInt8) : Option UInt8 :=
  body[(hasLead header).toNat]?

/-- A byte string is one command: it is as long as its header says, and its
effect, if it has one, is an effect of the player. -/
inductive IsCommand : List UInt8 → Prop
  | intro {header : UInt8} {body : List UInt8}
      (length : lengthTable[(header >>> 5).toNat]? = some (body.length + 1))
      (effect : hasEffect header = true →
        ∃ shared, sharedOf header body = some shared ∧ shared &&& 0x0F ∈ effectNumbers) :
      IsCommand (header :: body)

/-- The table of lengths agrees with the fields that a header announces. -/
theorem lengthTable_header : ∀ header : UInt8,
    lengthTable[(header >>> 5).toNat]? = some (commandLength header) :=
  forall_byte (by decide +kernel)

theorem lengthTable_eq_some_iff {header : UInt8} {n : Nat} :
    lengthTable[(header >>> 5).toNat]? = some n ↔ commandLength header = n := by
  rw [lengthTable_header, Option.some.injEq]

theorem exists_ofCode?_iff : ∀ shared : UInt8,
    (∃ opcode, Opcode.ofCode? (shared &&& 0x0F) = some opcode) ↔
      shared &&& 0x0F ∈ effectNumbers := by
  have table : ∀ shared : UInt8, (Opcode.ofCode? (shared &&& 0x0F)).isSome = true ↔
      shared &&& 0x0F ∈ effectNumbers := forall_byte (by decide +kernel)
  intro shared
  rw [← table shared, Option.isSome_iff_exists]

/-- Commands of which one is followed by the rest of the other end together. -/
theorem IsCommand.append_inj {bytes bytes' rest rest' : List UInt8} (h : IsCommand bytes)
    (h' : IsCommand bytes') (same : bytes ++ rest = bytes' ++ rest') :
    bytes = bytes' ∧ rest = rest' := by
  obtain ⟨length, -⟩ := h
  obtain ⟨length', -⟩ := h'
  have header := (List.cons.inj same).1
  rw [header, length'] at length
  exact List.append_inj same (by simpa using length.symm)

namespace View

theorem exists_front {present : Bool} {bytes : List UInt8} {n : Nat}
    (length : bytes.length = present.toNat + n) :
    ∃ (field : Option UInt8) (rest : List UInt8),
      bytes = field.toList ++ rest ∧ field.isSome = present ∧ rest.length = n := by
  cases present with
  | false => exact ⟨none, bytes, rfl, rfl, by simpa using length⟩
  | true =>
      cases bytes with
      | nil =>
          rw [List.length_nil, Bool.toNat_true] at length
          omega
      | cons b rest =>
          rw [List.length_cons, Bool.toNat_true] at length
          exact ⟨some b, rest, rfl, rfl, by omega⟩

/-- A body of the right length is made of the fields that its header announces. -/
theorem exists_fields {header : UInt8} {body : List UInt8}
    (length : commandLength header = body.length + 1) :
    ∃ lead shared param : Option UInt8, body = lead.toList ++ (shared.toList ++ param.toList) ∧
      hasLead header = lead.isSome ∧ (hasInstrument header || hasEffect header) = shared.isSome ∧
      hasEffect header = param.isSome := by
  have total : body.length = (hasLead header).toNat +
      ((hasInstrument header || hasEffect header).toNat + (hasEffect header).toNat) := by
    unfold commandLength at length
    omega
  obtain ⟨lead, afterLead, rfl, hl, total⟩ := exists_front total
  obtain ⟨shared, afterShared, rfl, hs, total⟩ := exists_front total
  obtain ⟨param, nothing, rfl, hp, total⟩ := exists_front (n := 0) total
  rw [List.length_eq_zero_iff.1 total, List.append_nil]
  exact ⟨lead, shared, param, rfl, hl.symm, hs.symm, hp.symm⟩

/-- The effect that the shared byte and the parameter of a command give. -/
def effectOf (shared param : Option UInt8) : Except Malformed (Option Action) :=
  if param.isSome then (actionOf (shared.getD 0) param.toList).map some else .ok none

/-- What a command shows whose header is followed by the given bytes. -/
def ofParts (channel : Nat) (header : UInt8) (lead shared : Option UInt8)
    (action : Option Action) : View where
  channel := channel
  header := header
  note := if channel = kitChannel then none else lead
  kit := if channel = kitChannel then lead else none
  instrument := if hasInstrument header then some (shared.getD 0 >>> 4) else none
  action := action
  volume := if hasVolume header then some (header &&& volumeMask) else none

/-- Whether a command with all its bytes can be read depends on its effect alone. -/
theorem decode_parts {header : UInt8} {lead shared param : Option UInt8}
    (hl : hasLead header = lead.isSome)
    (hs : (hasInstrument header || hasEffect header) = shared.isSome)
    (hp : hasEffect header = param.isSome) (channel : Nat) :
    decode channel (header :: (lead.toList ++ (shared.toList ++ param.toList))) =
      effectOf shared param >>= fun action => .ok (ofParts channel header lead shared action) := by
  simp only [decode, hl, optionalByte_toList, ok_bind]
  rw [hs, optionalByte_toList, hp]
  cases param <;> rfl

theorem effectOf_eq_error {shared param : Option UInt8} {cause : Malformed}
    (h : effectOf shared param = .error cause) : ∃ code, cause = .unknownOpcode code := by
  unfold effectOf at h
  cases param with
  | none => cases h
  | some p =>
      simp only [Option.isSome_some, if_true, actionOf] at h
      split at h
      · cases h
        exact ⟨_, rfl⟩
      · cases h

theorem exists_effectOf_iff {shared param : Option UInt8} :
    (∃ action, effectOf shared param = .ok action) ↔
      (param.isSome = true → shared.getD 0 &&& 0x0F ∈ effectNumbers) := by
  unfold effectOf
  cases param with
  | none => simp
  | some p =>
      rw [← exists_ofCode?_iff]
      simp only [Option.isSome_some, if_true, actionOf, forall_const]
      cases Opcode.ofCode? (shared.getD 0 &&& 0x0F) <;> simp [Except.map]

theorem sharedOf_fields {header : UInt8} {lead shared param : Option UInt8}
    (hl : hasLead header = lead.isSome) (present : shared.isSome = true) :
    sharedOf header (lead.toList ++ (shared.toList ++ param.toList)) = shared := by
  obtain ⟨s, rfl⟩ := Option.isSome_iff_exists.1 present
  rw [sharedOf, hl]
  cases lead <;> rfl

/-- A command with all its bytes is read exactly if its effect is known. -/
theorem exists_decode_iff {header : UInt8} {body : List UInt8}
    (length : commandLength header = body.length + 1) (channel : Nat) :
    (∃ view, decode channel (header :: body) = .ok view) ↔ IsCommand (header :: body) := by
  obtain ⟨lead, shared, param, rfl, hl, hs, hp⟩ := exists_fields length
  rw [decode_parts hl hs hp, exists_bind_ok_eq_ok_iff, exists_effectOf_iff, ← hp]
  have present : hasEffect header = true → shared.isSome = true := by
    intro effect
    rw [← hs, effect, Bool.or_true]
  constructor
  · intro known
    refine .intro (lengthTable_eq_some_iff.2 length) ?_
    intro effect
    obtain ⟨s, hshared⟩ := Option.isSome_iff_exists.1 (present effect)
    have known := known effect
    rw [hshared] at known
    exact ⟨s, by rw [sharedOf_fields hl (present effect), hshared], known⟩
  · intro command effect
    obtain ⟨-, known⟩ := command
    obtain ⟨s, found, known⟩ := known effect
    rw [sharedOf_fields hl (present effect)] at found
    rw [found]
    exact known

theorem decode_eq_error {header : UInt8} {body : List UInt8}
    (length : commandLength header = body.length + 1) {channel : Nat} {cause : Malformed}
    (h : decode channel (header :: body) = .error cause) : ∃ code, cause = .unknownOpcode code := by
  obtain ⟨lead, shared, param, rfl, hl, hs, hp⟩ := exists_fields length
  rw [decode_parts hl hs hp, bind_ok_eq_error_iff] at h
  exact effectOf_eq_error h

end View

theorem isCommand_assemble {lead instrument : Option UInt8} {action : Option Action}
    {volume : Option UInt8} {channel : Nat} {view : View}
    (h : View.decode channel (Command.assemble lead instrument action volume).toBytes = .ok view) :
    IsCommand (Command.assemble lead instrument action volume).toBytes := by
  have length := Command.length_toBytes (.assemble lead instrument action volume)
  rw [Command.toBytes_assemble] at h length ⊢
  exact (View.exists_decode_iff length.symm _).1 ⟨_, h⟩

theorem IsCommand.exists_decode {bytes : List UInt8} (h : IsCommand bytes) (channel : Nat) :
    ∃ view, View.decode channel bytes = .ok view := by
  have command := h
  obtain ⟨length, -⟩ := h
  exact (View.exists_decode_iff (lengthTable_eq_some_iff.1 length) channel).2 command

/-- Behind a header there is the rest of its command, or the row ends too early. -/
theorem exists_body_or_short (header : UInt8) (tail : List UInt8) :
    (∃ body rest, tail = body ++ rest ∧ commandLength header = body.length + 1) ∨
      tail.length + 1 < commandLength header := by
  have positive := commandLength_pos header
  by_cases long : commandLength header ≤ tail.length + 1
  · have length : commandLength header = (tail.take (commandLength header - 1)).length + 1 := by
      rw [List.length_take]
      omega
    exact .inl ⟨_, _, (List.take_append_drop (commandLength header - 1) tail).symm, length⟩
  · exact .inr (Nat.lt_of_not_le long)

theorem splitCommand_short {c : Channel} {header : UInt8} {tail : List UInt8}
    (short : tail.length + 1 < commandLength header) :
    splitCommand c (header :: tail) = .error (.commandTruncated c.number) := by
  rw [splitCommand, if_pos (by rw [List.length_cons]; exact short)]

theorem splitCommand_append {c : Channel} {header : UInt8} {body : List UInt8}
    (length : commandLength header = body.length + 1) (rest : List UInt8) :
    splitCommand c (header :: (body ++ rest)) =
      (View.decode c.number (header :: body)).map (·, rest) := by
  rw [splitCommand, if_neg (by simp [length]), length, ← List.length_cons (a := header),
    ← List.cons_append, List.take_left, List.drop_left]

/-- The command split off a row is the beginning of the row that is one command. -/
theorem splitCommand_eq_ok_iff {c : Channel} {row rest : List UInt8} {view : View} :
    splitCommand c row = .ok (view, rest) ↔
      ∃ bytes, row = bytes ++ rest ∧ IsCommand bytes ∧ View.decode c.number bytes = .ok view := by
  constructor
  · intro h
    cases row with
    | nil => cases h
    | cons header tail =>
        rcases exists_body_or_short header tail with ⟨body, after, rfl, length⟩ | short
        · rw [splitCommand_append length] at h
          obtain ⟨_, decoded, same⟩ := map_eq_ok_iff.1 h
          cases same
          exact ⟨header :: body, rfl, (View.exists_decode_iff length _).1 ⟨_, decoded⟩, decoded⟩
        · rw [splitCommand_short short] at h
          cases h
  · intro h
    obtain ⟨_, rfl, ⟨length, -⟩, decoded⟩ := h
    rw [List.cons_append, splitCommand_append (lengthTable_eq_some_iff.1 length), decoded]
    rfl

/-- A row that ends inside a command is refused before the command is read. -/
theorem splitCommand_eq_error {c : Channel} {row : List UInt8} {cause : Malformed}
    (h : splitCommand c row = .error cause) :
    cause = .rowEnds c.number ∨ cause = .commandTruncated c.number ∨
      ∃ code, cause = .unknownOpcode code := by
  cases row with
  | nil =>
      cases h
      exact .inl rfl
  | cons header tail =>
      rcases exists_body_or_short header tail with ⟨body, after, rfl, length⟩ | short
      · rw [splitCommand_append length] at h
        cases decoded : View.decode c.number (header :: body) with
        | error cause' =>
            rw [decoded] at h
            cases h
            exact .inr (.inr (View.decode_eq_error length decoded))
        | ok view =>
            rw [decoded] at h
            cases h
      · rw [splitCommand_short short] at h
        cases h
        exact .inr (.inl rfl)

/-- A row is the commands of the four channels, one behind the other. -/
structure Splits (row : List UInt8) (pieces : PerChannel (List UInt8)) : Prop where
  concat : row = pieces.pulse1 ++ (pieces.pulse2 ++ (pieces.wave ++ pieces.noise))
  command : ∀ c, IsCommand (pieces.get c)

theorem splits_encodeRow {commands : PerChannel Command}
    (command : ∀ c, IsCommand (commands.get c).toBytes) :
    Splits (encodeRow commands) (.ofFn fun c => (commands.get c).toBytes) := by
  refine ⟨?_, fun c => ?_⟩
  · simp [encodeRow, PerChannel.toList, PerChannel.ofFn, PerChannel.get]
  · rw [PerChannel.get_ofFn]
    exact command c

theorem decodeRow_eq_ok_iff {row : List UInt8} {views : PerChannel View} :
    decodeRow row = .ok views ↔ ∃ pieces, Splits row pieces ∧
      ∀ c, View.decode c.number (pieces.get c) = .ok (views.get c) := by
  simp only [decodeRow, bind_eq_ok_iff, Prod.exists, splitCommand_eq_ok_iff]
  constructor
  · intro h
    obtain ⟨v₁, _, ⟨b₁, rfl, c₁, d₁⟩, v₂, _, ⟨b₂, rfl, c₂, d₂⟩, v₃, _, ⟨b₃, rfl, c₃, d₃⟩,
      v₄, rest, ⟨b₄, rfl, c₄, d₄⟩, h⟩ := h
    split at h
    · rename_i nothing
      cases h
      rw [List.isEmpty_iff.1 nothing, List.append_nil]
      refine ⟨⟨b₁, b₂, b₃, b₄⟩, ⟨rfl, ?_⟩, ?_⟩
      · exact Channel.forall_iff.2 ⟨c₁, c₂, c₃, c₄⟩
      · exact Channel.forall_iff.2 ⟨d₁, d₂, d₃, d₄⟩
    · cases h
  · intro h
    obtain ⟨pieces, ⟨rfl, command⟩, decoded⟩ := h
    refine ⟨views.pulse1, _, ⟨_, rfl, command .pulse1, decoded .pulse1⟩, views.pulse2, _,
      ⟨_, rfl, command .pulse2, decoded .pulse2⟩, views.wave, _,
      ⟨_, rfl, command .wave, decoded .wave⟩, views.noise, [],
      ⟨_, (List.append_nil _).symm, command .noise, decoded .noise⟩, rfl⟩

/-- Splittable rows of which one is followed by the rest of the other have the
same commands. -/
theorem Splits.append_inj {row row' rest rest' : List UInt8}
    {pieces pieces' : PerChannel (List UInt8)}
    (h : Splits row pieces) (h' : Splits row' pieces') (same : row ++ rest = row' ++ rest') :
    pieces = pieces' ∧ rest = rest' := by
  rw [h.concat, h'.concat] at same
  simp only [List.append_assoc] at same
  obtain ⟨first, same⟩ := (h.command .pulse1).append_inj (h'.command .pulse1) same
  obtain ⟨second, same⟩ := (h.command .pulse2).append_inj (h'.command .pulse2) same
  obtain ⟨third, same⟩ := (h.command .wave).append_inj (h'.command .wave) same
  obtain ⟨fourth, same⟩ := (h.command .noise).append_inj (h'.command .noise) same
  exact ⟨PerChannel.ext_get (Channel.forall_iff.2 ⟨first, second, third, fourth⟩), same⟩

theorem Splits.unique {row : List UInt8} {pieces pieces' : PerChannel (List UInt8)}
    (h : Splits row pieces) (h' : Splits row pieces') : pieces = pieces' := by
  have same : row ++ [] = row ++ [] := rfl
  exact (h.append_inj h' same).1

theorem Splits.eq_of_prefix {row row' : List UInt8} {pieces pieces' : PerChannel (List UInt8)}
    (h : Splits row pieces) (h' : Splits row' pieces') (front : row <+: row') : row = row' := by
  obtain ⟨rest, same⟩ := front
  have nothing := (h.append_inj h' (same.trans (List.append_nil row').symm)).2
  rw [← same, nothing, List.append_nil]

theorem exists_decodeRow_iff {row : List UInt8} :
    (∃ views, decodeRow row = .ok views) ↔ ∃ pieces, Splits row pieces := by
  simp only [decodeRow_eq_ok_iff]
  constructor
  · intro h
    obtain ⟨_, pieces, splits, -⟩ := h
    exact ⟨pieces, splits⟩
  · intro h
    obtain ⟨pieces, splits⟩ := h
    have decoded : ∀ c, ∃ view, View.decode c.number (pieces.get c) = .ok view :=
      fun c => (splits.command c).exists_decode c.number
    choose view decoded using decoded
    exact ⟨.ofFn view, pieces, splits, fun c => by rw [PerChannel.get_ofFn]; exact decoded c⟩

theorem decodeRow_eq_error {row : List UInt8} {cause : Malformed}
    (h : decodeRow row = .error cause) :
    (∃ n, cause = .rowEnds n) ∨ (∃ n, cause = .commandTruncated n) ∨
      (∃ code, cause = .unknownOpcode code) ∨ ∃ n, cause = .trailingBytes n := by
  have split : ∀ {c : Channel} {row : List UInt8}, splitCommand c row = .error cause →
      (∃ n, cause = .rowEnds n) ∨ (∃ n, cause = .commandTruncated n) ∨
        (∃ code, cause = .unknownOpcode code) ∨ ∃ n, cause = .trailingBytes n := by
    intro c row failed
    rcases splitCommand_eq_error failed with ends | truncated | unknown
    · exact .inl ⟨_, ends⟩
    · exact .inr (.inl ⟨_, truncated⟩)
    · exact .inr (.inr (.inl unknown))
  simp only [decodeRow, bind_eq_error_iff] at h
  rcases h with failed | ⟨_, -, failed | ⟨_, -, failed | ⟨_, -, failed | ⟨_, -, failed⟩⟩⟩⟩
  · exact split failed
  · exact split failed
  · exact split failed
  · exact split failed
  · split at failed
    · cases failed
    · cases failed
      exact .inr (.inr (.inr ⟨_, rfl⟩))

/-- A row is decoded exactly if it is four commands back to back. It is so in one
way only, its commands are read each by itself, and no other row that is
decoded begins with it or ends earlier. What goes wrong is never noticed inside a
command. -/
theorem decodeRow_accepts_four_commands (row : List UInt8) :
    ((∃ views, decodeRow row = .ok views) ↔ ∃ pieces, Splits row pieces) ∧
    (∀ pieces pieces', Splits row pieces → Splits row pieces' → pieces = pieces') ∧
    (∀ views pieces, decodeRow row = .ok views → Splits row pieces →
      ∀ c, View.decode c.number (pieces.get c) = .ok (views.get c)) ∧
    ((∃ views, decodeRow row = .ok views) → ∀ row', row <+: row' ∨ row' <+: row →
      row' ≠ row → ¬ ∃ views, decodeRow row' = .ok views) ∧
    decodeRow row ≠ .error .commandShort ∧
    ∀ channel, decodeRow row ≠ .error (.commandEmpty channel) := by
  refine ⟨exists_decodeRow_iff, fun _ _ => Splits.unique, ?_, ?_, ?_, ?_⟩
  · intro views pieces decoded splits c
    obtain ⟨pieces', splits', shown⟩ := decodeRow_eq_ok_iff.1 decoded
    rw [splits.unique splits']
    exact shown c
  · rw [exists_decodeRow_iff]
    intro accepted row' front different accepted'
    obtain ⟨pieces, splits⟩ := accepted
    obtain ⟨pieces', splits'⟩ := exists_decodeRow_iff.1 accepted'
    rcases front with before | behind
    · exact different (splits.eq_of_prefix splits' before).symm
    · exact different (splits'.eq_of_prefix splits behind)
  · intro failed
    simpa using decodeRow_eq_error failed
  · intro channel failed
    simpa using decodeRow_eq_error failed

end Chiptune.Bytecode

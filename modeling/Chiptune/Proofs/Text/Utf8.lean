import Chiptune.Text.Utf8
import Mathlib.Data.List.TakeWhile

/-!
# What bytes spell

A character is spelled by a lead byte and the bytes that it announces. The decoder
takes, behind a lead byte, the longest run of bytes that can follow it: as many as are
announced make a character, and fewer make a part that no character has, for which a
replacement character stands. So decoding is the only reading of bytes as a text in
which every character is spelled as it is encoded and every other part is as long as
it can be; in particular the encoding of a text is read as that text.
-/

namespace Chiptune.Text.Utf8

open String (utf8EncodeChar)

theorem isContinuation_iff {b : UInt8} :
    isContinuation b = true ↔ 0x80 ≤ b.toNat ∧ b.toNat ≤ 0xBF := by
  simp [isContinuation, UInt8.le_iff_toNat_le]

theorem isSecond_iff {lead b : UInt8} : isSecond lead b = true ↔
    (0x80 ≤ b.toNat ∧ b.toNat ≤ 0xBF) ∧ (lead.toNat = 0xE0 → 0xA0 ≤ b.toNat) ∧
      (lead.toNat = 0xED → b.toNat ≤ 0x9F) ∧ (lead.toNat = 0xF0 → 0x90 ≤ b.toNat) ∧
      (lead.toNat = 0xF4 → b.toNat ≤ 0x8F) := by
  unfold isSecond isContinuation
  simp only [← UInt8.toNat_inj, UInt8.le_iff_toNat_le, UInt8.reduceToNat]
  split_ifs <;> simp only [Bool.and_eq_true, decide_eq_true_eq] <;> omega

theorem announced_eq_succ_iff {lead : UInt8} {n : Nat} : announced lead = n + 1 ↔
    (n = 0 ∧ lead.toNat < 0x80) ∨ (n = 1 ∧ 0xC2 ≤ lead.toNat ∧ lead.toNat < 0xE0) ∨
      (n = 2 ∧ 0xE0 ≤ lead.toNat ∧ lead.toNat < 0xF0) ∨
      (n = 3 ∧ 0xF0 ≤ lead.toNat ∧ lead.toNat < 0xF5) := by
  unfold announced
  simp only [UInt8.lt_iff_toNat_lt, UInt8.reduceToNat]
  constructor
  · intro h
    split_ifs at h <;> omega
  · intro h
    split_ifs <;> omega

/-- Bytes that can stand behind a lead byte in its character. -/
def Follows (lead : UInt8) : List UInt8 → Prop
  | [] => True
  | second :: later => isSecond lead second = true ∧ ∀ b ∈ later, isContinuation b = true

theorem Follows.of_append {lead : UInt8} {tail more : List UInt8}
    (follows : Follows lead (tail ++ more)) : Follows lead tail := by
  cases tail with
  | nil => trivial
  | cons second later => exact ⟨follows.1, (List.forall_mem_append.1 follows.2).1⟩

/-- The code points that a lead byte and the bytes behind it spell. -/
inductive Spells : UInt8 → List UInt8 → Nat → Prop
  | one {lead : UInt8} : lead.toNat < 0x80 → Spells lead [] lead.toNat
  | two {lead b : UInt8} : 0xC2 ≤ lead.toNat → lead.toNat < 0xE0 → isSecond lead b = true →
      Spells lead [b] (64 * (lead.toNat % 32) + b.toNat % 64)
  | three {lead b₁ b₂ : UInt8} : 0xE0 ≤ lead.toNat → lead.toNat < 0xF0 →
      isSecond lead b₁ = true → isContinuation b₂ = true →
      Spells lead [b₁, b₂]
        (4096 * (lead.toNat % 16) + 64 * (b₁.toNat % 64) + b₂.toNat % 64)
  | four {lead b₁ b₂ b₃ : UInt8} : 0xF0 ≤ lead.toNat → lead.toNat < 0xF5 →
      isSecond lead b₁ = true → isContinuation b₂ = true → isContinuation b₃ = true →
      Spells lead [b₁, b₂, b₃] (262144 * (lead.toNat % 8) + 4096 * (b₁.toNat % 64) +
        64 * (b₂.toNat % 64) + b₃.toNat % 64)

namespace Spells

variable {lead : UInt8} {tail : List UInt8} {n : Nat}

theorem announced_eq (spells : Spells lead tail n) : announced lead = tail.length + 1 := by
  cases spells <;> simp [announced_eq_succ_iff] <;> omega

theorem follows (spells : Spells lead tail n) : Follows lead tail := by
  cases spells <;> simp [Follows, *]

theorem scalar (spells : Spells lead tail n) : n < 0xD800 ∨ 0xDFFF < n ∧ n < 0x110000 := by
  cases spells with
  | one small => omega
  | two => omega
  | three le lt second third =>
      rw [isSecond_iff] at second
      omega
  | four le lt second third fourth =>
      rw [isSecond_iff] at second
      omega

theorem codePoint_eq (spells : Spells lead tail n) : codePoint lead tail = n := by
  have count := spells.announced_eq
  cases spells <;> simp [codePoint, leadBits, count] <;> omega

/-- A spelling is the one that its character is written in. -/
theorem encode_eq {c : Char} (spells : Spells lead tail c.toNat) :
    utf8EncodeChar c = lead :: tail := by
  have number : c.val.toNat = c.toNat := rfl
  rw [utf8EncodeChar]
  simp only [number]
  generalize c.toNat = n at spells
  cases spells with
  | one small =>
      rw [if_pos (by omega), UInt8.ofNat_toNat]
  | two le lt second =>
      rw [isSecond_iff] at second
      rw [if_neg (by omega), if_pos (by omega)]
      simp only [List.cons.injEq, and_true, ← UInt8.toNat_inj, UInt8.toNat_ofNat']
      omega
  | three le lt second third =>
      rw [isSecond_iff] at second
      rw [isContinuation_iff] at third
      rw [if_neg (by omega), if_neg (by omega), if_pos (by omega)]
      simp only [List.cons.injEq, and_true, ← UInt8.toNat_inj, UInt8.toNat_ofNat']
      omega
  | four le lt second third fourth =>
      rw [isSecond_iff] at second
      rw [isContinuation_iff] at third fourth
      rw [if_neg (by omega), if_neg (by omega), if_neg (by omega)]
      simp only [List.cons.injEq, and_true, ← UInt8.toNat_inj, UInt8.toNat_ofNat']
      omega

end Spells

/-- As many bytes as a lead byte announces spell a code point if they can follow it. -/
theorem exists_spells {lead : UInt8} {tail : List UInt8}
    (count : announced lead = tail.length + 1) (follows : Follows lead tail) :
    ∃ n, Spells lead tail n := by
  match tail with
  | [] =>
      have kind := (announced_eq_succ_iff (n := 0)).1 count
      exact ⟨_, .one (by omega)⟩
  | [b] =>
      have kind := (announced_eq_succ_iff (n := 1)).1 count
      exact ⟨_, .two (by omega) (by omega) follows.1⟩
  | [b₁, b₂] =>
      have kind := (announced_eq_succ_iff (n := 2)).1 count
      exact ⟨_, .three (by omega) (by omega) follows.1 (follows.2 b₂ (by simp))⟩
  | [b₁, b₂, b₃] =>
      have kind := (announced_eq_succ_iff (n := 3)).1 count
      exact ⟨_, .four (by omega) (by omega) follows.1 (follows.2 b₂ (by simp))
        (follows.2 b₃ (by simp))⟩
  | _ :: _ :: _ :: _ :: _ =>
      have kind := announced_eq_succ_iff.1 count
      simp at kind

/-- A remainder with a mark above it fits a byte. -/
theorem toNat_marked {m mark : Nat} (pos : 0 < m) (fits : m + mark ≤ 256) (k : Nat) :
    (UInt8.ofNat (k % m + mark)).toNat = k % m + mark := by
  have less : k % m + mark < m + mark := Nat.add_lt_add_right (Nat.mod_lt k pos) mark
  exact UInt8.toNat_ofNat_of_lt' (Nat.lt_of_lt_of_le less fits)

theorem spells_of_encode {lead : UInt8} {tail : List UInt8} {c : Char}
    (encoded : utf8EncodeChar c = lead :: tail) : Spells lead tail c.toNat := by
  have number : c.val.toNat = c.toNat := rfl
  have scalar : c.toNat < 0xD800 ∨ 0xDFFF < c.toNat ∧ c.toNat < 0x110000 := c.valid
  rw [utf8EncodeChar] at encoded
  simp only [number] at encoded
  split_ifs at encoded with one two three
  · obtain ⟨rfl, rfl⟩ := List.cons.inj encoded
    convert Spells.one ?_ using 1 <;> simp only [UInt8.toNat_ofNat'] <;> omega
  · obtain ⟨rfl, rfl⟩ := List.cons.inj encoded
    convert Spells.two ?_ ?_ ?_ using 1 <;>
      simp (disch := decide) only [isSecond_iff, toNat_marked] <;> omega
  · obtain ⟨rfl, rfl⟩ := List.cons.inj encoded
    convert Spells.three ?_ ?_ ?_ ?_ using 1 <;>
      simp (disch := decide) only [isSecond_iff, isContinuation_iff, toNat_marked] <;> omega
  · obtain ⟨rfl, rfl⟩ := List.cons.inj encoded
    convert Spells.four ?_ ?_ ?_ ?_ ?_ using 1 <;>
      simp (disch := decide) only [isSecond_iff, isContinuation_iff, toNat_marked] <;> omega

theorem toNat_ofNat {n : Nat} (scalar : n < 0xD800 ∨ 0xDFFF < n ∧ n < 0x110000) :
    (Char.ofNat n).toNat = n := by
  rw [Char.ofNat, dif_pos scalar]
  rfl

/-- The bytes of a character are those that are announced and can follow. -/
theorem encode_eq_cons_iff {lead : UInt8} {tail : List UInt8} :
    (∃ c, utf8EncodeChar c = lead :: tail) ↔
      announced lead = tail.length + 1 ∧ Follows lead tail := by
  constructor
  · rintro ⟨c, encoded⟩
    have spells := spells_of_encode encoded
    exact ⟨spells.announced_eq, spells.follows⟩
  · rintro ⟨count, follows⟩
    obtain ⟨n, spells⟩ := exists_spells count follows
    refine ⟨Char.ofNat n, Spells.encode_eq ?_⟩
    rw [toNat_ofNat spells.scalar]
    exact spells

/-- Some byte can follow every lead byte. -/
theorem exists_second (lead : UInt8) : ∃ b, isSecond lead b = true := by
  by_cases late : lead.toNat = 0xE0 ∨ lead.toNat = 0xF0
  · exact ⟨0xA0, isSecond_iff.2 (by simp only [UInt8.reduceToNat]; omega)⟩
  · exact ⟨0x80, isSecond_iff.2 (by simp only [UInt8.reduceToNat]; omega)⟩

theorem exists_follows {lead : UInt8} {tail : List UInt8} {n : Nat} (less : tail.length ≤ n)
    (follows : Follows lead tail) :
    ∃ more, (tail ++ more).length = n ∧ Follows lead (tail ++ more) := by
  have continues : ∀ k, ∀ b ∈ List.replicate k (0x80 : UInt8), isContinuation b = true := by
    intro k b member
    rw [List.eq_of_mem_replicate member]
    rfl
  match tail, n with
  | [], 0 => exact ⟨[], rfl, trivial⟩
  | [], n + 1 =>
      obtain ⟨second, holds⟩ := exists_second lead
      exact ⟨second :: List.replicate n 0x80, by simp, holds, continues n⟩
  | second :: later, n =>
      refine ⟨List.replicate (n - (later.length + 1)) 0x80, ?_, follows.1, ?_⟩
      · simp at less ⊢
        omega
      · exact List.forall_mem_append.2 ⟨follows.2, continues _⟩

/-- A character can begin with these bytes. -/
def Begins (bytes : List UInt8) : Prop := ∃ c, bytes <+: utf8EncodeChar c

theorem begins_iff {lead : UInt8} {tail : List UInt8} :
    Begins (lead :: tail) ↔ tail.length + 1 ≤ announced lead ∧ Follows lead tail := by
  constructor
  · rintro ⟨c, more, encoded⟩
    rw [List.cons_append] at encoded
    have spells := spells_of_encode encoded.symm
    rw [spells.announced_eq, List.length_append]
    exact ⟨by omega, spells.follows.of_append⟩
  · rintro ⟨count, follows⟩
    obtain ⟨more, length, follows'⟩ := exists_follows (n := announced lead - 1) (by omega) follows
    obtain ⟨c, encoded⟩ := encode_eq_cons_iff.2 ⟨by omega, follows'⟩
    exact ⟨c, more, encoded.symm⟩

/-- The longest part of the bytes behind a lead byte that can follow it. -/
structure Longest (lead : UInt8) (count : Nat) (bytes tail : List UInt8) : Prop where
  isPrefix : tail <+: bytes
  follows : Follows lead tail
  length_le : tail.length ≤ count
  longest : ∀ b, tail ++ [b] <+: bytes → tail.length < count → ¬ Follows lead (tail ++ [b])

/-- The byte behind all that are taken is not taken. -/
theorem takeWhile_not_longer {p : UInt8 → Bool} {bytes : List UInt8} {b : UInt8}
    (longer : bytes.takeWhile p ++ [b] <+: bytes) : p b = false := by
  obtain ⟨more, whole⟩ := longer
  rw [List.append_assoc, List.singleton_append] at whole
  have split : bytes.takeWhile p ++ bytes.dropWhile p = bytes.takeWhile p ++ b :: more :=
    List.takeWhile_append_dropWhile.trans whole.symm
  have head := List.head?_dropWhile_not p bytes
  rw [List.append_cancel_left split] at head
  exact head

theorem continuation_longest (lead : UInt8) (count : Nat) (bytes : List UInt8) :
    Longest lead count bytes (continuation lead count bytes) := by
  cases bytes with
  | nil => exact ⟨List.nil_prefix, trivial, Nat.zero_le _, by simp [continuation]⟩
  | cons b rest =>
      rw [continuation]
      split_ifs with none second
      · exact ⟨List.nil_prefix, trivial, Nat.zero_le _, fun _ _ less => by simp [none] at less⟩
      · have part : (rest.take (count - 1)).takeWhile isContinuation <+: rest.take (count - 1) :=
          List.takeWhile_prefix _
        refine ⟨?_, ⟨second, ?_⟩, ?_, ?_⟩
        · exact (List.prefix_cons_inj b).2 (part.trans (List.take_prefix _ _))
        · intro b' member
          exact List.mem_takeWhile_imp member
        · have := part.length_le
          rw [List.length_take] at this
          rw [List.length_cons]
          omega
        · intro b' longer less follows
          rw [List.cons_append, List.prefix_cons_inj] at longer
          rw [List.length_cons] at less
          have reached : (rest.take (count - 1)).takeWhile isContinuation ++ [b'] <+:
              rest.take (count - 1) := by
            rw [List.prefix_take_iff, List.length_append, List.length_singleton]
            exact ⟨longer, by omega⟩
          have continues : isContinuation b' = true := follows.2 b' (by simp)
          rw [takeWhile_not_longer reached] at continues
          cases continues
      · refine ⟨List.nil_prefix, trivial, Nat.zero_le _, ?_⟩
        rintro b' ⟨more, whole⟩ - follows
        cases whole
        exact second follows.1

namespace Longest

variable {lead : UInt8} {count : Nat} {bytes tail tail' : List UInt8}

theorem eq_of_isPrefix (h : Longest lead count bytes tail) (h' : Longest lead count bytes tail')
    (part : tail <+: tail') : tail = tail' := by
  obtain ⟨more, rfl⟩ := part
  cases more with
  | nil => rw [List.append_nil]
  | cons b more =>
      have whole : tail ++ b :: more = (tail ++ [b]) ++ more := by simp
      have less := h'.length_le
      rw [List.length_append, List.length_cons] at less
      have follows := h'.follows
      rw [whole] at follows
      have part := h'.isPrefix
      rw [whole] at part
      exact absurd follows.of_append
        (h.longest b ((List.prefix_append _ _).trans part) (by omega))

theorem unique (h : Longest lead count bytes tail) (h' : Longest lead count bytes tail') :
    tail = tail' := by
  rcases List.prefix_or_prefix_of_prefix h.isPrefix h'.isPrefix with part | part
  · exact h.eq_of_isPrefix h' part
  · exact (h'.eq_of_isPrefix h part).symm

end Longest

/-- A part of some bytes that is no character: it begins one that does not go on, or
else it is a single byte. -/
structure Broken (lead : UInt8) (tail rest : List UInt8) : Prop where
  incomplete : ∀ c, utf8EncodeChar c ≠ lead :: tail
  begins : tail ≠ [] → Begins (lead :: tail)
  ends : ∀ b later, rest = b :: later → ¬ Begins (lead :: (tail ++ [b]))

/-- Reading bytes as a text: the characters that they spell, and one replacement
character for each part between them that is no character, as long as it can be. -/
inductive Lossy : List UInt8 → List Char → Prop
  | nil : Lossy [] []
  | char (c : Char) {rest : List UInt8} {text : List Char} :
      Lossy rest text → Lossy (utf8EncodeChar c ++ rest) (c :: text)
  | broken {lead : UInt8} {tail rest : List UInt8} {text : List Char} :
      Broken lead tail rest → Lossy rest text →
      Lossy (lead :: (tail ++ rest)) (replacement :: text)

section

variable {lead : UInt8} {tail rest bytes : List UInt8} {n : Nat}

theorem first_of_zero (none : announced lead = 0) (bytes : List UInt8) :
    first lead bytes = (replacement, 0) := by
  rw [first, none]

theorem first_of_longest (count : announced lead = n + 1) (longest : Longest lead n bytes tail) :
    first lead bytes = if tail.length = n then (Char.ofNat (codePoint lead tail), n)
      else (replacement, tail.length) := by
  rw [first, count, ← (continuation_longest lead n bytes).unique longest]

/-- A character is decoded to itself, whatever comes behind it. -/
theorem first_of_encode {c : Char} (encoded : utf8EncodeChar c = lead :: tail)
    (rest : List UInt8) : first lead (tail ++ rest) = (c, tail.length) := by
  have spells := spells_of_encode encoded
  have longest : Longest lead tail.length (tail ++ rest) tail :=
    ⟨List.prefix_append _ _, spells.follows, Nat.le_refl _, fun _ _ less => by omega⟩
  rw [first_of_longest spells.announced_eq longest, if_pos rfl, spells.codePoint_eq,
    Char.ofNat_toNat]

theorem Broken.first_eq (broken : Broken lead tail rest) :
    first lead (tail ++ rest) = (replacement, tail.length) := by
  have begins : tail = [] ∨ tail.length + 1 ≤ announced lead ∧ Follows lead tail :=
    (em (tail = [])).imp_right fun some => begins_iff.1 (broken.begins some)
  cases count : announced lead with
  | zero =>
      obtain rfl : tail = [] := begins.resolve_right (by omega)
      exact first_of_zero count rest
  | succ n =>
      have follows : tail.length ≤ n ∧ Follows lead tail := by
        rcases begins with rfl | ⟨le, follows⟩
        · exact ⟨Nat.zero_le n, trivial⟩
        · exact ⟨by omega, follows⟩
      have longest : Longest lead n (tail ++ rest) tail := by
        refine ⟨List.prefix_append _ _, follows.2, follows.1, ?_⟩
        rintro b ⟨later, whole⟩ less goesOn
        rw [List.append_assoc] at whole
        have next := (List.append_cancel_left whole).symm
        refine broken.ends b later next (begins_iff.2 ⟨?_, goesOn⟩)
        rw [count, List.length_append, List.length_singleton]
        omega
      have short : tail.length ≠ n := by
        rintro rfl
        obtain ⟨c, encoded⟩ := encode_eq_cons_iff.2 ⟨count, follows.2⟩
        exact broken.incomplete c encoded
      rw [first_of_longest count longest, if_neg short]

/-- Bytes begin with a character or with a part that is none. -/
theorem encoded_or_broken (lead : UInt8) (bytes : List UInt8) :
    ∃ tail rest, bytes = tail ++ rest ∧
      ((∃ c, utf8EncodeChar c = lead :: tail) ∨ Broken lead tail rest) := by
  cases count : announced lead with
  | zero =>
      refine ⟨[], bytes, rfl, .inr ⟨?_, fun some => absurd rfl some, ?_⟩⟩
      · intro c encoded
        rw [(spells_of_encode encoded).announced_eq] at count
        cases count
      · intro b later _ begins
        have := (begins_iff.1 begins).1
        omega
  | succ n =>
      have longest := continuation_longest lead n bytes
      obtain ⟨rest, whole⟩ := longest.isPrefix
      refine ⟨_, rest, whole.symm, ?_⟩
      generalize continuation lead n bytes = tail at longest whole
      by_cases full : tail.length = n
      · subst full
        exact .inl (encode_eq_cons_iff.2 ⟨count, longest.follows⟩)
      · have less : tail.length < n := Nat.lt_of_le_of_ne longest.length_le full
        refine .inr ⟨?_, fun _ => begins_iff.2 ⟨by omega, longest.follows⟩, ?_⟩
        · intro c encoded
          rw [(spells_of_encode encoded).announced_eq] at count
          omega
        · rintro b later rfl begins
          refine longest.longest b ⟨later, ?_⟩ less (begins_iff.1 begins).2
          rw [← whole, List.append_assoc, List.singleton_append]

end

theorem decode_utf8EncodeChar_append (c : Char) (rest : List UInt8) :
    decode (utf8EncodeChar c ++ rest) = c :: decode rest := by
  cases encoded : utf8EncodeChar c with
  | nil =>
      have size := congrArg List.length encoded
      rw [String.length_utf8EncodeChar] at size
      exact absurd size (Nat.ne_of_gt c.utf8Size_pos)
  | cons lead tail =>
      rw [List.cons_append, decode_cons, first_of_encode encoded, List.drop_left]

theorem Broken.decode_eq {lead : UInt8} {tail rest : List UInt8} (broken : Broken lead tail rest) :
    decode (lead :: (tail ++ rest)) = replacement :: decode rest := by
  rw [decode_cons, broken.first_eq, List.drop_left]

theorem decode_lossy (bytes : List UInt8) : Lossy bytes (decode bytes) := by
  induction bytes using decode.induct with
  | case1 =>
      rw [decode_nil]
      exact .nil
  | case2 lead bytes ih =>
      obtain ⟨tail, rest, rfl, ⟨c, encoded⟩ | broken⟩ := encoded_or_broken lead bytes
      · rw [first_of_encode encoded, List.drop_left] at ih
        rw [← List.cons_append, ← encoded, decode_utf8EncodeChar_append]
        exact .char c ih
      · rw [broken.first_eq, List.drop_left] at ih
        rw [broken.decode_eq]
        exact .broken broken ih

/-- Bytes are decoded to the text that they are read as. -/
theorem lossy_iff {bytes : List UInt8} {text : List Char} :
    Lossy bytes text ↔ decode bytes = text := by
  constructor
  · intro lossy
    induction lossy with
    | nil => exact decode_nil
    | char c _ ih => rw [decode_utf8EncodeChar_append, ih]
    | broken broken _ ih => rw [broken.decode_eq, ih]
  · rintro rfl
    exact decode_lossy bytes

/-- A text is read as itself. -/
theorem lossy_encode (text : List Char) : Lossy (text.flatMap utf8EncodeChar) text := by
  induction text with
  | nil => exact .nil
  | cons c text ih => exact .char c ih

theorem Follows.zero_notMem {lead : UInt8} {tail : List UInt8} (follows : Follows lead tail) :
    0 ∉ tail := by
  cases tail with
  | nil => exact List.not_mem_nil
  | cons second later =>
      intro member
      rcases List.mem_cons.1 member with rfl | member
      · have range := (isSecond_iff.1 follows.1).1.1
        exact absurd range (by decide)
      · exact absurd (follows.2 0 member) (by decide)

/-- Only the zero character has a zero byte. -/
theorem zero_mem_encode_iff {c : Char} : 0 ∈ utf8EncodeChar c ↔ c = '\x00' := by
  constructor
  · intro member
    cases encoded : utf8EncodeChar c with
    | nil =>
        rw [encoded] at member
        exact absurd member List.not_mem_nil
    | cons lead tail =>
        have spells := spells_of_encode encoded
        rw [encoded, List.mem_cons] at member
        obtain rfl : 0 = lead := member.resolve_right spells.follows.zero_notMem
        have alone : tail = [] := List.eq_nil_of_length_eq_zero
          (Nat.succ.inj (spells.announced_eq.symm.trans (by decide)))
        subst alone
        have zero : c.toNat = 0 := spells.codePoint_eq.symm.trans (by decide)
        rw [← Char.ofNat_toNat c, zero]
  · rintro rfl
    decide

/-- A text read from bytes that are not zero has no zero character. -/
theorem Lossy.zero_notMem {bytes : List UInt8} {text : List Char} (lossy : Lossy bytes text)
    (visible : 0 ∉ bytes) : '\x00' ∉ text := by
  induction lossy with
  | nil => exact List.not_mem_nil
  | char c _ ih =>
      rw [List.mem_append, not_or, zero_mem_encode_iff] at visible
      exact List.not_mem_cons_of_ne_of_not_mem (Ne.symm visible.1) (ih visible.2)
  | broken _ _ ih =>
      rw [List.mem_cons, List.mem_append, not_or, not_or] at visible
      exact List.not_mem_cons_of_ne_of_not_mem (by decide) (ih visible.2.2)

/-- The bytes of a text without zero characters are not zero. -/
theorem zero_notMem_flatMap_encode {text : List Char} (visible : '\x00' ∉ text) :
    0 ∉ text.flatMap utf8EncodeChar := by
  intro member
  obtain ⟨c, there, zero⟩ := List.mem_flatMap.1 member
  rw [zero_mem_encode_iff] at zero
  exact visible (zero ▸ there)

/-- The bytes of a string are those of its characters, one behind the other. -/
theorem toUTF8_toList (s : String) : s.toUTF8.data.toList = s.toList.flatMap utf8EncodeChar := by
  rw [String.toUTF8_eq_toByteArray, ← String.utf8Encode_toList, List.utf8Encode,
    List.toList_data_toByteArray]

theorem toUTF8_join_cons (text : String) (texts : List String) :
    (String.join (text :: texts)).toUTF8.data =
      text.toUTF8.data ++ (String.join texts).toUTF8.data := by
  rw [String.join_cons]
  exact ByteArray.data_append

end Chiptune.Text.Utf8

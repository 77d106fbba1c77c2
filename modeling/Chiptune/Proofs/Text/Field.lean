import Chiptune.Proofs.Cursor
import Chiptune.Proofs.Text.Utf8
import Mathlib.Data.List.DropRight

/-!
# What text fields show

A text field is cut at its first zero byte, decoded, and trimmed at its end, in this
order. So a text that was written into a field comes back without the white space at
its end, with or without padding behind it; and whatever bytes a field has, it shows
neither a zero character nor anything of what stands behind its first zero byte.
-/

namespace Chiptune

namespace Text

/-- A text without the white space at its end. -/
structure Trimmed (text shown : List Char) : Prop where
  cut : ∃ blanks, text = shown ++ blanks ∧ ∀ c ∈ blanks, isBlank c = true
  visible : ∀ c ∈ shown.getLast?, isBlank c = false

theorem trimEnd_append_blanks (text : List Char) {blanks : List Char}
    (blank : ∀ c ∈ blanks, isBlank c = true) : trimEnd (text ++ blanks) = trimEnd text := by
  induction blanks using List.reverseRecOn with
  | nil => rw [List.append_nil]
  | append_singleton blanks c ih =>
      rw [List.forall_mem_append] at blank
      rw [← List.append_assoc, trimEnd_append_blank _ (blank.2 c (.head _)), ih blank.1]

theorem trimmed_iff {text shown : List Char} : Trimmed text shown ↔ shown = trimEnd text := by
  constructor
  · rintro ⟨⟨blanks, rfl, blank⟩, visible⟩
    rw [trimEnd_append_blanks shown blank]
    refine (List.rdropWhile_eq_self_iff.2 fun some blank => ?_).symm
    have shows := visible _ (List.getLast_mem_getLast? some)
    rw [shows] at blank
    cases blank
  · rintro rfl
    refine ⟨⟨text.rtakeWhile isBlank, List.rdropWhile_append_rtakeWhile.symm,
      fun c => List.mem_rtakeWhile_imp⟩, ?_⟩
    intro c last
    obtain ⟨some, rfl⟩ := List.mem_getLast?_eq_getLast last
    exact Bool.eq_false_iff.2 (List.rdropWhile_last_not _ _ some)

/-- The bytes of a field that count: all of them, or those before a zero byte with
anything behind it. -/
inductive Padded (visible : List UInt8) : List UInt8 → Prop
  | full : Padded visible visible
  | cut (junk : List UInt8) : Padded visible (visible ++ 0 :: junk)

theorem Padded.field_eq {visible bytes : List UInt8} (padded : Padded visible bytes)
    (zeroFree : 0 ∉ visible) : field bytes = field visible := by
  cases padded with
  | full => rfl
  | cut junk => exact field_append_zero (fun b member zero => zeroFree (zero ▸ member)) junk

/-- Every field is cut at its first zero byte. -/
theorem exists_padded (bytes : List UInt8) : ∃ visible, 0 ∉ visible ∧ Padded visible bytes := by
  induction bytes with
  | nil => exact ⟨[], List.not_mem_nil, .full⟩
  | cons b bytes ih =>
      by_cases zero : b = 0
      · subst zero
        exact ⟨[], List.not_mem_nil, .cut bytes⟩
      · obtain ⟨visible, zeroFree, padded⟩ := ih
        refine ⟨b :: visible, List.not_mem_cons_of_ne_of_not_mem (Ne.symm zero) zeroFree, ?_⟩
        cases padded with
        | full => exact .full
        | cut junk => exact .cut junk

/-- A field without a zero byte counts as a whole. -/
theorem Padded.eq_of_zeroFree {visible bytes : List UInt8} (padded : Padded visible bytes)
    (zeroFree : 0 ∉ bytes) : visible = bytes := by
  cases padded with
  | full => rfl
  | cut junk => exact absurd (List.mem_append_right visible (.head junk)) zeroFree

/-- What a field shows is the text of its bytes, trimmed. -/
theorem Padded.trimmed {visible bytes : List UInt8} {text : List Char}
    (padded : Padded visible bytes) (zeroFree : 0 ∉ visible) (lossy : Utf8.Lossy visible text) :
    Trimmed text (field bytes).toList := by
  have whole : fieldBytes visible = visible := by
    rw [fieldBytes, List.takeWhile_eq_self_iff]
    intro b member
    exact bne_iff_ne.2 fun zero => zeroFree (zero ▸ member)
  rw [trimmed_iff, padded.field_eq zeroFree, field, String.toList_ofList, whole,
    Utf8.lossy_iff.1 lossy]

theorem Trimmed.mem {text shown : List Char} (trimmed : Trimmed text shown) {c : Char}
    (member : c ∈ shown) : c ∈ text := by
  obtain ⟨blanks, rfl, -⟩ := trimmed.cut
  exact List.mem_append_left blanks member

end Text

namespace Cursor

open Text

/-- The bytes at the position of a cursor. -/
structure IsNext (c : Cursor) (bytes : List UInt8) : Prop where
  inside : c.position + bytes.length ≤ c.image.size
  same : c.next bytes.length = bytes

theorem IsNext.run_text {c : Cursor} {bytes : List UInt8} (isNext : c.IsNext bytes) :
    c.run (.text bytes.length) = (.ok (.text (field bytes)), c.advance bytes.length) := by
  rw [run, takeAs_of_le isNext.inside, isNext.same]

/-- A field with a text in it, padded or not, shows that text without the white space at
its end. Any field shows a text without zero characters and without white space at its
end, which is what is read from the bytes before its first zero byte, whatever stands
behind that byte. -/
theorem text_shows_no_padding :
    (∀ (c : Cursor) (s : String) (bytes : List UInt8), '\x00' ∉ s.toList →
      Padded s.toUTF8.data.toList bytes → c.IsNext bytes → ∃ shown : String,
        c.run (.text bytes.length) = (.ok (.text shown), c.advance bytes.length) ∧
          Trimmed s.toList shown.toList) ∧
    (∀ (c : Cursor) (bytes : List UInt8), c.IsNext bytes → ∃ visible text, ∃ shown : String,
      c.run (.text bytes.length) = (.ok (.text shown), c.advance bytes.length) ∧
        0 ∉ visible ∧ Padded visible bytes ∧ Utf8.Lossy visible text ∧
        Trimmed text shown.toList ∧ '\x00' ∉ shown.toList) ∧
    ∀ (c c' : Cursor) (visible bytes bytes' : List UInt8), 0 ∉ visible →
      Padded visible bytes → Padded visible bytes' → c.IsNext bytes → c'.IsNext bytes' →
        (c.run (.text bytes.length)).1 = (c'.run (.text bytes'.length)).1 := by
  refine ⟨?written, ?arbitrary, ?agreeing⟩
  case written =>
    intro c s bytes zeroFree padded isNext
    have visible := Utf8.zero_notMem_flatMap_encode zeroFree
    rw [Utf8.toUTF8_toList] at padded
    exact ⟨_, isNext.run_text, padded.trimmed visible (Utf8.lossy_encode s.toList)⟩
  case arbitrary =>
    intro c bytes isNext
    obtain ⟨visible, zeroFree, padded⟩ := exists_padded bytes
    have lossy := Utf8.decode_lossy visible
    have trimmed := padded.trimmed zeroFree lossy
    exact ⟨visible, _, _, isNext.run_text, zeroFree, padded, lossy, trimmed,
      fun zero => lossy.zero_notMem zeroFree (trimmed.mem zero)⟩
  case agreeing =>
    intro c c' visible bytes bytes' zeroFree padded padded' isNext isNext'
    rw [isNext.run_text, isNext'.run_text, padded.field_eq zeroFree, padded'.field_eq zeroFree]

/-- A wide blank stands between a name and its padding, which begins like the name; a
second field has other padding, and a third one ends inside a character. -/
theorem text_paddedName_shows_no_padding :
    let name : List UInt8 := [0xC3, 0xA9, 0xE3, 0x80, 0x80]
    let c : Cursor := ⟨#[0x41, 0xC3, 0xA9, 0xE3, 0x80, 0x80, 0x00, 0xC3, 0xA9], 1⟩
    let other : Cursor := ⟨#[0xC3, 0xA9, 0xE3, 0x80, 0x80, 0x00], 0⟩
    let half : Cursor := ⟨#[0xE2, 0x82], 0⟩
    ('\x00' ∉ "é\u3000".toList ∧ "é\u3000".toUTF8.data.toList = name ∧
      c.IsNext (name ++ 0 :: [0xC3, 0xA9]) ∧
      c.run (.text 8) = (.ok (.text "é"), c.advance 8)) ∧
    (0 ∉ name ∧ other.IsNext (name ++ 0 :: []) ∧
      (c.run (.text 8)).1 = (other.run (.text 6)).1) ∧
    half.IsNext [0xE2, 0x82] ∧
      half.run (.text 2) = (.ok (.text "\uFFFD"), half.advance 2) := by
  intro name c other half
  obtain ⟨written, arbitrary, agreeing⟩ := text_shows_no_padding
  have zeroFree : '\x00' ∉ "é\u3000".toList := by decide
  have spelled : "é\u3000".toUTF8.data.toList = name := by decide +kernel
  have isNext : c.IsNext (name ++ 0 :: [0xC3, 0xA9]) := ⟨by decide, by decide⟩
  have zeroFree' : 0 ∉ name := by decide
  have isNext' : other.IsNext (name ++ 0 :: []) := ⟨by decide, by decide⟩
  have isNextHalf : half.IsNext [0xE2, 0x82] := ⟨by decide, by decide⟩
  refine ⟨⟨zeroFree, spelled, isNext, ?name⟩, ⟨zeroFree', isNext', ?other⟩, isNextHalf, ?half⟩
  case name =>
    have padded : Padded "é\u3000".toUTF8.data.toList (name ++ 0 :: [0xC3, 0xA9]) :=
      spelled ▸ .cut [0xC3, 0xA9]
    obtain ⟨shown, run, trimmed⟩ := written c "é\u3000" _ zeroFree padded isNext
    have same : shown.toList = "é".toList := trimmed_iff.1 trimmed
    rw [String.toList_inj.1 same] at run
    exact run
  case other =>
    exact agreeing c other name _ _ zeroFree' (.cut _) (.cut _) isNext isNext'
  case half =>
    obtain ⟨visible, text, shown, run, -, padded, lossy, trimmed, -⟩ :=
      arbitrary half [0xE2, 0x82] isNextHalf
    obtain rfl := padded.eq_of_zeroFree (by decide)
    have taken : Utf8.first 0xE2 [0x82] = ('\uFFFD', 1) := by decide
    have read : Utf8.decode [0xE2, 0x82] = ['\uFFFD'] := by simp [Utf8.decode_cons, taken]
    have same : shown.toList = "\uFFFD".toList := by
      rw [trimmed_iff.1 trimmed, ← Utf8.lossy_iff.1 lossy, read]
      decide
    rw [String.toList_inj.1 same] at run
    exact run

end Cursor

end Chiptune

import Chiptune.Text.Utf8

/-!
# Fixed-width text fields

A name in a module occupies a fixed number of bytes. It ends at the first zero
byte, what follows that byte being padding, and white space at its end is
padding too: the characters with the Unicode property White_Space.
-/

namespace Chiptune.Text

def isBlank (c : Char) : Bool :=
  let n := c.toNat
  (9 ≤ n && n ≤ 13) || n = 0x20 || n = 0x85 || n = 0xA0 || n = 0x1680 ||
  (0x2000 ≤ n && n ≤ 0x200A) || n = 0x2028 || n = 0x2029 || n = 0x202F ||
  n = 0x205F || n = 0x3000

def trimEnd (text : List Char) : List Char :=
  (text.reverse.dropWhile isBlank).reverse

theorem trimEnd_append_blank (text : List Char) {c : Char} (h : isBlank c = true) :
    trimEnd (text ++ [c]) = trimEnd text := by
  simp [trimEnd, h]

/-- The bytes of a field before its first zero byte. -/
def fieldBytes (bytes : List UInt8) : List UInt8 := bytes.takeWhile (· != 0)

def field (bytes : List UInt8) : String :=
  String.ofList (trimEnd (Utf8.decode (fieldBytes bytes)))

/-- What follows the first zero byte never shows. -/
theorem field_append_zero {bytes : List UInt8} (h : ∀ b ∈ bytes, b ≠ 0) (junk : List UInt8) :
    field (bytes ++ 0 :: junk) = field bytes := by
  have visible : ∀ b ∈ bytes, (b != 0) = true := by simpa using h
  have whole : bytes.takeWhile (· != 0) = bytes := by
    have extended : (bytes ++ []).takeWhile (· != 0) = bytes ++ [].takeWhile (· != 0) :=
      List.takeWhile_append_of_pos visible
    simpa using extended
  simp [field, fieldBytes, List.takeWhile_append_of_pos visible, whole]

end Chiptune.Text

import LuaAssist.Text.Measure

/-!
# Units of UTF-16

A character of the basic plane is one unit of UTF-16, and any other character is a pair of them. A
text has as many units as its length in units says.
-/

namespace LuaAssist.Text

/-- The units of a character. Beyond the basic plane twenty bits are left of its number, and each
unit of the pair holds ten of them behind its own mark. -/
def utf16Char (c : Char) : List UInt16 :=
  let n := c.toNat
  if n < 0x10000 then [UInt16.ofNat n]
  else [UInt16.ofNat (0xD800 + (n - 0x10000) / 0x400), UInt16.ofNat (0xDC00 + (n - 0x10000) % 0x400)]

/-- The units of a text. -/
def toUtf16 (text : Text) : List UInt16 := text.flatMap utf16Char

/-- Texts are encoded one after the other. -/
@[simp] theorem toUtf16_append (text other : Text) :
    toUtf16 (text ++ other) = toUtf16 text ++ toUtf16 other :=
  List.flatMap_append

/-- A character has as many units as its width says. -/
theorem length_utf16Char (c : Char) : (utf16Char c).length = utf16Width c := by
  simp only [utf16Char, utf16Width]
  split <;> rfl

/-- A text has as many units as its length in units says. -/
theorem length_toUtf16 (text : Text) : (toUtf16 text).length = utf16Length text := by
  induction text with
  | nil => rfl
  | cons c rest ih =>
    rw [toUtf16, List.flatMap_cons, List.length_append, length_utf16Char, ← toUtf16, ih]
    rfl

/-- A letter of one unit and a sign of two. -/
example : toUtf16 "é🎉".toList = [0xE9, 0xD83C, 0xDF89] := by decide

end LuaAssist.Text

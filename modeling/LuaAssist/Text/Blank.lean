import LuaAssist.Text.Measure

/-!
# Blank characters

The characters with the Unicode property White_Space, and removing them at the ends
of a text.
-/

namespace LuaAssist.Text

/-- A character with the property White_Space. -/
def isBlank (c : Char) : Bool :=
  c = ' ' || ('\t' ≤ c && c ≤ '\r') || c = '\u0085' || c = '\u00a0' || c = '\u1680' ||
    ('\u2000' ≤ c && c ≤ '\u200a') || c = '\u2028' || c = '\u2029' || c = '\u202f' ||
    c = '\u205f' || c = '\u3000'

/-- Drops the blanks in front. -/
def trimStart (text : Text) : Text := text.dropWhile isBlank

/-- Drops the blanks at the end. -/
def trimEnd (text : Text) : Text := (text.reverse.dropWhile isBlank).reverse

/-- Drops the blanks at both ends. -/
def trim (text : Text) : Text := trimEnd (trimStart text)

end LuaAssist.Text

import LuaAssist.Text.Measure
import LuaAssist.Text.CaseTables

/-!
# Letter case

The full lowercase form of a text, in which a capital sigma at the end of a word gets
its final form, and the simple case folding of a character, which keeps lengths.
-/

namespace LuaAssist.Text

/-- A character with the property Uppercase. -/
def isUppercase (c : Char) : Bool :=
  if c.toNat < 0x80 then c.isUpper else CaseTables.uppercase.contains c.toNat

/-- A character with the property Cased. -/
def isCased (c : Char) : Bool :=
  if c.toNat < 0x80 then c.isAlpha else CaseTables.cased.contains c.toNat

/-- A character with the property Case_Ignorable. -/
def isCaseIgnorable (c : Char) : Bool :=
  if c.toNat < 0x80 then c = '\'' || c = '.' || c = ':' || c = '^' || c.toNat = 0x60
  else CaseTables.caseIgnorable.contains c.toNat

/-- The first character that is not ignored for case is a cased one. -/
def startsCased (text : Text) : Bool :=
  (text.dropWhile isCaseIgnorable).head?.any isCased

/-- The lowercase form of a character other than capital sigma. The capital I with a dot
becomes two characters. -/
def lowerChar (c : Char) : Text :=
  if c.toNat < 0x80 then [c.toLower]
  else if c = '\u0130' then ['i', '\u0307']
  else [Char.ofNat (moved CaseTables.lower c.toNat)]

/-- The lowercase form of a text behind the given characters, nearest first. A capital sigma
is final if a cased letter comes before it and none after it. -/
def lowercaseAfter (before : Text) : Text → Text
  | [] => []
  | c :: rest =>
    (if c = '\u03a3' then
      [if startsCased before && !startsCased rest then '\u03c2' else '\u03c3']
    else lowerChar c) ++ lowercaseAfter (c :: before) rest

/-- The full lowercase form of a text. -/
def lowercase (text : Text) : Text := lowercaseAfter [] text

/-- The simple case folding of a character: two characters differ in case only if their
foldings agree. -/
def foldChar (c : Char) : Char :=
  if c.toNat < 0x80 then c.toLower else Char.ofNat (moved CaseTables.fold c.toNat)

end LuaAssist.Text

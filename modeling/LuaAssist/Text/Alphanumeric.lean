import LuaAssist.Text.Measure
import LuaAssist.Text.Letters

/-!
# Characters of names and of words

Two classes that differ beyond ASCII. A character of a name is a letter or a number of
any kind. A character of a word is a letter, a digit, a mark, a connector or a join
control; the places where words begin and end follow from it.
-/

namespace LuaAssist.Text

/-- A letter or a number of any script. -/
def isAlphanumeric (c : Char) : Bool :=
  if c.toNat < 0x80 then c.isAlphanum
  else Letters.alphabetic.contains c.toNat || Letters.decimalDigits.contains c.toNat ||
    Letters.otherNumbers.contains c.toNat

/-- A letter of any script. -/
def isLetter (c : Char) : Bool :=
  if c.toNat < 0x80 then c.isAlpha else Letters.alphabetic.contains c.toNat

/-- A character of an identifier as it is typed: a letter, a number or an underscore. -/
def isIdentifierPart (c : Char) : Bool := isAlphanumeric c || c = '_'

/-- A character of a word: letters, marks, digits, connectors and join controls. -/
def isWordPart (c : Char) : Bool :=
  if c.toNat < 0x80 then c.isAlphanum || c = '_'
  else Letters.alphabetic.contains c.toNat || Letters.bareMarks.contains c.toNat ||
    Letters.decimalDigits.contains c.toNat || Letters.connectors.contains c.toNat ||
    Letters.joinControls.contains c.toNat

/-- A text is cut around the first place where `word` stands and no word part directly in
front of it, and where `fits` holds of what follows. `before?` is the character in front of
the text. The parts are what stands before the word and what stands behind it. -/
def cutAtWord? (word : Text) (fits : Text → Bool) (before? : Option Char) :
    Text → Option (Text × Text)
  | [] => none
  | c :: rest =>
    let behind := (c :: rest).drop word.length
    if !before?.any isWordPart && word.isPrefixOf (c :: rest) && fits behind then
      some ([], behind)
    else (cutAtWord? word fits (some c) rest).map fun (before, after) => (c :: before, after)

/-- No word goes on in front of this text. -/
def endsWord (behind : Text) : Bool := !behind.head?.any isWordPart

end LuaAssist.Text

import LuaAssist.Text.Measure

/-!
# Documents by offset, by line and by position

An editor addresses a document by character offset, by line, or by a line and a
column in UTF-16 units. Here a line ends at any Unicode line break, and a document
has one line more than it has breaks. Every question about a place outside the
document has an answer: the nearest place inside it.
-/

namespace LuaAssist

/-- A place as editors name it: a line and a column in UTF-16 units. -/
structure Position where
  line : Nat
  column : Nat
  deriving DecidableEq, Repr

/-- Two places and what lies between them. -/
structure Range where
  start : Position
  stop : Position
  deriving DecidableEq, Repr

namespace Document

/-- A character that ends a line. -/
def isBreak (c : Char) : Bool :=
  c = '\n' || c = '\x0b' || c = '\x0c' || c = '\r' || c = '\u0085' || c = '\u2028' ||
    c = '\u2029'

/-- A line that starts with `c`, put in front of what follows it: `c` joins the next line
unless it ends its own. -/
def consLine (c : Char) (following : List Text) : List Text :=
  if isBreak c then [c] :: following
  else match following with
    | [] => [[c]]
    | line :: lines => (c :: line) :: lines

/-- The lines with the breaks that end them. A carriage return and the line feed behind it
are one break. -/
def rawLines : Text → List Text
  | [] => [[]]
  | [c] => consLine c [[]]
  | c :: d :: rest =>
    if c = '\r' && d = '\n' then [c, d] :: rawLines rest else consLine c (rawLines (d :: rest))

/-- Drops a line feed at the end, and a carriage return before it. No other break is
dropped. -/
def dropLineFeed (line : Text) : Text :=
  match line.reverse with
  | '\n' :: '\r' :: rest => rest.reverse
  | '\n' :: rest => rest.reverse
  | _ => line

/-- The texts of all lines, without their line feeds. -/
def lineTexts (text : Text) : List Text := (rawLines text).map dropLineFeed

/-- The number of lines, at least one. -/
def lineCount (text : Text) : Nat := (rawLines text).length

/-- The offset at which a line starts; past the last line, the length of the document. -/
def lineStart (text : Text) (line : Nat) : Nat :=
  ((rawLines text).take line).flatten.length

/-- The text of a line without its line feed; empty past the last line. -/
def lineText (text : Text) (line : Nat) : Text :=
  dropLineFeed ((rawLines text)[line]?.getD [])

/-- The line among the given ones in which an offset lies; the last one takes all that is
left. -/
def lineAmong : List Text → Nat → Nat
  | [], _ => 0
  | [_], _ => 0
  | line :: next :: lines, offset =>
    if offset < line.length then 0 else lineAmong (next :: lines) (offset - line.length) + 1

/-- The line that contains an offset; past the end, the last line. -/
def lineOf (text : Text) (offset : Nat) : Nat := lineAmong (rawLines text) offset

/-- At most `length` characters from an offset on. -/
def textAt (text : Text) (offset length : Nat) : Text := (text.drop offset).take length

/-- The characters of a line before a UTF-16 column. A column between the two units of one
character counts that character. -/
def charColumn : Text → Nat → Nat
  | [], _ => 0
  | c :: rest, units =>
    if units = 0 then 0 else charColumn rest (units - Text.utf16Width c) + 1

/-- The UTF-16 column of a byte of a line. A byte inside a character counts that
character. -/
def utf16Column : Text → Nat → Nat
  | [], _ => 0
  | c :: rest, bytes =>
    if bytes = 0 then 0
    else Text.utf16Width c + utf16Column rest (bytes - Text.utf8Width c)

/-- The offset of a position. A column past the end of its line means that end, and a line
past the last means the end of the document. -/
def offsetOf (text : Text) (position : Position) : Nat :=
  if lineCount text ≤ position.line then text.length
  else lineStart text position.line + charColumn (lineText text position.line) position.column

/-- The position of an offset. -/
def positionOf (text : Text) (offset : Nat) : Position :=
  let within := min offset text.length
  let line := lineOf text within
  let column := within - lineStart text line
  ⟨line, Text.utf16Length ((lineText text line).take column)⟩

/-- A change to a document: new text for a range, or for the whole document. -/
structure Change where
  range : Option Range
  text : Text
  deriving DecidableEq, Repr

/-- A change that names its range. -/
structure Edit where
  range : Range
  text : Text
  deriving DecidableEq, Repr

/-- An edit as a change. -/
def Edit.toChange (edit : Edit) : Change := ⟨some edit.range, edit.text⟩

/-- Replaces the characters between two offsets. -/
def replace (text : Text) (start stop : Nat) (replacement : Text) : Text :=
  text.take start ++ replacement ++ text.drop (max start stop)

/-- The document after a change. A range that ends before it starts is empty. -/
def apply (text : Text) (change : Change) : Text :=
  match change.range with
  | none => change.text
  | some range =>
    replace text (offsetOf text range.start) (offsetOf text range.stop) change.text

end Document

end LuaAssist

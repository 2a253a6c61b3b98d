import LuaAssist.Indent.Keywords
import LuaAssist.Text.Blank

/-!
# The column of a line

A new line stands under the line above it, one level further for every block that this
one leaves open. A line that ends a block stands under the line that began it. Columns are
numbers of 32 bits.
-/

namespace LuaAssist.Indent

/-- How lines are indented. The sizes are given in 32 bits, as columns are. -/
structure Style where
  /-- Columns of one level. -/
  size : Nat
  /-- A tab reaches the next multiple of this. -/
  tabSize : Nat
  /-- Spaces are written, and no tabs. -/
  spaces : Bool
  deriving DecidableEq, Repr

/-- How many columns there are. -/
def columnCount : Nat := 0x100000000

/-- Behind the last column the count starts again at zero. -/
def wrap (column : Nat) : Nat := column % columnCount

/-- The column that blanks reach from a column on. -/
def columnFrom (tabSize column : Nat) : Text → Nat
  | [] => column
  | c :: rest =>
    if c = ' ' then columnFrom tabSize (wrap (column + 1)) rest
    else if c = '\t' then
      columnFrom tabSize (wrap (column + (tabSize - column % tabSize))) rest
    else column

/-- The column of the first character that is no space or tab. Tabs of size zero count as
one column. -/
def column (line : Text) (tabSize : Nat) : Nat := columnFrom (max tabSize 1) 0 line

/-- The depth that keywords lead to, and the lowest depth on the way. A keyword that closes
and opens does so in this order. -/
def depths (keywords : List Text) : Int × Int :=
  keywords.foldl (fun (depth, lowest) keyword =>
    let closed := if closes keyword then depth - 1 else depth
    (if opens keyword then closed + 1 else closed, min lowest closed)) (0, 0)

/-- The levels that keywords open beyond the lowest depth they reach. -/
def delta (keywords : List Text) : Int := (depths keywords).1 - (depths keywords).2

/-- A line without code of its own: blank, or a line comment. -/
def isSkippable (line : Text) : Bool :=
  let trimmed := Text.trim line
  trimmed.isEmpty || "--".toList.isPrefixOf trimmed

/-- The column of a line that has just been started. -/
def newLineColumn (text : Text) (line : Nat) (style : Style) : Nat :=
  let above := ((Document.lineTexts text).zip (keywordLines text line)).take line
  match above.reverse.find? fun (previous, _) => !isSkippable previous with
  | none => 0
  | some (previous, keywords) =>
    wrap (column previous style.tabSize + (delta keywords).toNat * style.size)

/-- The keywords begin nothing that they end: at some point more is closed than opened. -/
def closesOutside (keywords : List Text) : Bool := (depths keywords).2 < 0

/-- Reading keywords backwards, how many blocks are still to be begun; below zero the one
that is looked for has begun here. -/
def unclosed (start : Int) (keywords : List Text) : Int × Bool :=
  keywords.reverse.foldl (fun (depth, begun) keyword =>
    let opened := if opens keyword then depth - 1 else depth
    (if closes keyword then opened + 1 else opened, begun || (opens keyword && opened < 0)))
    (start, false)

/-- The nearest of some lines, given from the nearest on, that begins the block. -/
def opener? (depth : Int) : List (Text × List Text) → Option Text
  | [] => none
  | (line, keywords) :: rest =>
    let (after, begun) := unclosed depth keywords
    if begun then some line else opener? after rest

/-- The column of a line whose last keyword ends a block that began on a line above. -/
def closingColumn? (text : Text) (line : Nat) (style : Style) : Option Nat :=
  let keywords := keywordLines text line
  let own := keywords.getD line []
  if !own.getLast?.any closes || !closesOutside own then none
  else
    let above := ((Document.lineTexts text).zip keywords).take line
    (opener? 0 above.reverse).map fun found => column found style.tabSize

end LuaAssist.Indent

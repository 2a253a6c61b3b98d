import LuaAssist.Indent.Column

/-!
# Indenting while typing

An edit replaces all spaces and tabs in front of a line, so it does not matter what the
editor has put there. There is none where the line already stands right.
-/

namespace LuaAssist.Indent

/-- Blanks that reach a column. -/
def blanks (target : Nat) (style : Style) : Text :=
  if style.spaces then List.replicate target ' '
  else
    let tabSize := max style.tabSize 1
    List.replicate (target / tabSize) '\t' ++ List.replicate (target % tabSize) ' '

/-- The edit that moves a line with the given text to a column. -/
def moveTo (line : Nat) (text : Text) (target : Nat) (style : Style) : Document.Edit :=
  let existing := (text.takeWhile fun c => c = ' ' || c = '\t').length
  ⟨⟨⟨line, 0⟩, ⟨line, existing⟩⟩, blanks target style⟩

/-- A line ends with the letters of a closing keyword. -/
def endsWithClosing (line : Text) : Bool :=
  closing.any fun keyword => keyword.isSuffixOf (Text.trimEnd line)

/-- The column that a line should have after something was typed on it. -/
def target? (text : Text) (line : Nat) (typed : Text) (style : Style) : Option Nat :=
  if endsWithClosing (Document.lineText text line) then closingColumn? text line style
  else if typed = ['\n'] then some (newLineColumn text line style)
  else none

/-- A line stands at a column, without tabs where spaces are wanted. -/
def standsAt (line : Text) (target : Nat) (style : Style) : Bool :=
  column line style.tabSize = target && !(line.contains '\t' && style.spaces)

/-- The edit after something was typed on a line, if the line has to move. -/
def edit? (text : Text) (line : Nat) (typed : Text) (style : Style) : Option Document.Edit := do
  let target ← target? text line typed style
  let current := Document.lineText text line
  if standsAt current target style then none else some (moveTo line current target style)

end LuaAssist.Indent

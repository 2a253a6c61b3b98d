import LuaAssist.Document
import LuaAssist.Token.Lexer

/-!
# Block keywords of lines

Which keywords stand on each line of a document. Only keyword tokens count, so nothing
inside a string or a comment does, and long ones are followed from line to line.
-/

namespace LuaAssist.Indent

/-- The keywords that open a level for the lines below. -/
def opening : List Text :=
  ["function".toList, "do".toList, "then".toList, "else".toList, "repeat".toList]

/-- The keywords that close a level, on their own line. -/
def closing : List Text := ["end".toList, "until".toList, "elseif".toList, "else".toList]

/-- The keyword opens a level. -/
def opens (keyword : Text) : Bool := opening.contains keyword

/-- The keyword closes a level. -/
def closes (keyword : Text) : Bool := closing.contains keyword

/-- The last letters of the closing keywords, each once: typing one may finish a keyword. -/
def electric : List Char := (closing.filterMap List.getLast?).foldl (fun known c =>
  if known.contains c then known else known ++ [c]) []

/-- The keywords among the tokens of a line. -/
def keywordsOf (scan : LineScan) : List Text :=
  (scan.tokens.filter fun token => token.kind = .keyword).map Token.text

/-- The keywords of each line, of which the first starts in the given state. -/
def keywordsFrom (state : LineState) : List Text → List (List Text)
  | [] => []
  | line :: rest =>
    let scan := Lexer.scan line state
    keywordsOf scan :: keywordsFrom scan.state rest

/-- The keywords of the lines of a document up to the given one. -/
def keywordLines (text : Text) (last : Nat) : List (List Text) :=
  keywordsFrom .code ((Document.lineTexts text).take (last + 1))

end LuaAssist.Indent

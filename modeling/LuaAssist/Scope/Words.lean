import LuaAssist.Document
import LuaAssist.Text.Alphanumeric
import LuaAssist.Token.Lexer

/-!
# The words before a line

What a reader of the code sees of the lines above a place: their tokens that carry
meaning, with long comments and strings followed across lines.
-/

namespace LuaAssist

/-- A token that carries meaning. -/
abbrev Word := Token

namespace Word

/-- The word is this sign or keyword, and no literal that reads the same. -/
def isSign (word : Word) (sign : String) : Bool :=
  word.text = sign.toList && word.kind ≠ .string && word.kind ≠ .number

/-- The word is this keyword. -/
def isKeyword (word : Word) (keyword : String) : Bool :=
  word.kind = .keyword && word.text = keyword.toList

/-- The word is a name, and not a character that merely stands alone. -/
def isName (word : Word) : Bool :=
  word.kind.isName && word.text.head?.any fun c => Text.isLetter c || c = '_'

/-- The words of lines, of which the first starts in the given state. -/
def ofLines (state : LineState) : List Text → List Word
  | [] => []
  | line :: rest =>
    let scan := Lexer.scan line state
    scan.significant ++ ofLines scan.state rest

/-- The words of the lines above the line of an offset. -/
def before (text : Text) (offset : Nat) : List Word :=
  ofLines .code ((Document.lineTexts text).take (Document.lineOf text offset))

end Word

end LuaAssist

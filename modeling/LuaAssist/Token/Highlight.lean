import LuaAssist.Text.Lines
import LuaAssist.Token.Lexer

/-!
# Marking required modules

For display, the module that a `require` asks for has a category of its own. A line
that starts with `require` is read as one module reference; elsewhere only the strings
directly behind a `require` name a module.
-/

namespace LuaAssist.Highlight

/-- An identifier that reads `require`. -/
def isRequire (token : Token) : Bool :=
  token.kind = .identifier && token.text = "require".toList

/-- Tokens that may stand between `require` and its module. -/
def isBetween (token : Token) : Bool :=
  token.kind = .whitespace || (token.kind = .operator && token.text = "(".toList)

/-- The same text in another category. -/
def recast (token : Token) (kind : TokenKind) : Token := ⟨kind, token.text⟩

/-- Behind a `require` that starts its line every string and identifier names the module. -/
def markReference (token : Token) : Token :=
  if token.kind = .string || token.kind = .identifier then recast token .requiredModule
  else token

/-- Each `require` becomes a keyword, and the strings behind it name modules as long as
nothing but blanks and opening parentheses stands between. `pending` says that a `require`
may still be followed by its module. -/
def markCalls (pending : Bool) : List Token → List Token
  | [] => []
  | token :: rest =>
    if isRequire token then recast token .keyword :: markCalls true rest
    else if token.kind = .string && pending then
      recast token .requiredModule :: markCalls true rest
    else token :: markCalls (pending && (token.kind = .string || isBetween token)) rest

/-- Marks the tokens of one line. Blanks in front do not keep `require` from starting it. -/
def mark (tokens : List Token) : List Token :=
  let indentation := tokens.takeWhile fun token =>
    token.kind = .whitespace || token.kind = .lineEnd
  match tokens.drop indentation.length with
  | first :: rest =>
    if isRequire first then indentation ++ recast first .keyword :: rest.map markReference
    else markCalls false tokens
  | [] => tokens

/-- Scans one line for display. -/
def line (text : Text) (state : LineState) : LineScan :=
  let scan := Lexer.scan text state
  ⟨mark scan.tokens, scan.state⟩

/-- Scans lines for display, each starting in the state that the one above leaves. -/
def linesFrom (state : LineState) : List Text → List LineScan
  | [] => []
  | text :: rest =>
    let scan := line text state
    scan :: linesFrom scan.state rest

/-- Scans all lines of a text for display. -/
def document (text : Text) : List LineScan := linesFrom .code (Text.lines text)

end LuaAssist.Highlight

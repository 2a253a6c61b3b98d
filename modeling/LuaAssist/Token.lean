import LuaAssist.Text.Measure

/-!
# Tokens of one line

A line is cut into tokens, each a lexical category with the text that it covers.
A long comment or long string may stay open at the end of a line; the state handed
to the next line says which, and a single integer can hold it.
-/

namespace LuaAssist

/-- The lexical category of a token. -/
inductive TokenKind where
  | number
  | string
  /-- A name declared by `local`, or `self`. -/
  | localName
  /-- A name reached through `.` or `:`. -/
  | field
  | metamethod
  | keyword
  | operator
  | blockComment
  | comment
  | identifier
  | whitespace
  /-- The module that a `require` asks for. -/
  | requiredModule
  /-- The empty token that ends every line. -/
  | lineEnd
  deriving DecidableEq, Repr

namespace TokenKind

/-- All categories in the order of the legend. -/
def all : List TokenKind :=
  [number, string, localName, field, metamethod, keyword, operator, blockComment, comment,
   identifier, whitespace, requiredModule, lineEnd]

/-- The position of a category in the legend. -/
def legendIndex (kind : TokenKind) : Nat := all.idxOf kind

/-- The name of a category in an editor's legend. -/
def legendName : TokenKind → String
  | number => "number"
  | string => "string"
  | localName => "variable"
  | field => "property"
  | metamethod => "magicAttribute"
  | keyword => "keyword"
  | operator => "operator"
  | blockComment => "multiLineComment"
  | comment => "comment"
  | identifier => "identifier"
  | whitespace => "whitespace"
  | requiredModule => "namespace"
  | lineEnd => "endOfBlock"

/-- Comments of either form. -/
def isComment : TokenKind → Bool
  | comment | blockComment => true
  | _ => false

/-- Categories without meaning to the program: blanks, comments and the end of the line. -/
def isTrivia (kind : TokenKind) : Bool :=
  kind.isComment || kind = whitespace || kind = lineEnd

/-- Names of every refinement. -/
def isName : TokenKind → Bool
  | identifier | localName | field | metamethod => true
  | _ => false

end TokenKind

/-- A category with the text that it covers. -/
structure Token where
  kind : TokenKind
  text : Text
  deriving DecidableEq, Repr

/-- What is open where a line ends. The number is the level of the long bracket, its
count of `=`. -/
inductive LineState where
  | code
  | longComment (level : Nat)
  | longString (level : Nat)
  deriving DecidableEq, Repr

namespace LineState

/-- The largest signed integer of 32 bits, where encoded states stop growing. -/
def rawLimit : Nat := 2147483647

/-- The encoding's last step clamps to the limit; a level beyond the limit first counts as
half of it. -/
def rawOf (level offset : Nat) : Nat :=
  min ((min ((if level ≤ rawLimit then level else rawLimit / 2) * 2) rawLimit) + offset) rawLimit

/-- A state as one integer: zero in code, odd in a string and even in a comment. -/
def toRaw : LineState → Int
  | code => 0
  | longString level => rawOf level 1
  | longComment level => rawOf level 2

/-- Reads an encoded state. Integers that encode nothing mean code. -/
def ofRaw (raw : Int) : LineState :=
  if raw ≤ 0 then code
  else if raw % 2 = 1 then longString ((raw - 1) / 2).toNat
  else longComment ((raw - 2) / 2).toNat

end LineState

/-- A token's place in its line, in bytes. -/
structure Span where
  kind : TokenKind
  start : Nat
  length : Nat
  deriving DecidableEq, Repr

/-- A line cut into tokens, and what is still open behind it. -/
structure LineScan where
  tokens : List Token
  state : LineState
  deriving DecidableEq, Repr

namespace LineScan

/-- The byte spans of tokens laid end to end from `start`. -/
def spansFrom (start : Nat) : List Token → List Span
  | [] => []
  | token :: rest =>
    ⟨token.kind, start, Text.utf8Length token.text⟩ ::
      spansFrom (start + Text.utf8Length token.text) rest

/-- The byte spans of a line's tokens. -/
def spans (scan : LineScan) : List Span := spansFrom 0 scan.tokens

/-- The tokens that carry meaning. -/
def significant (scan : LineScan) : List Token :=
  scan.tokens.filter fun token => !token.kind.isTrivia

/-- Where the first comment starts, in bytes. -/
def commentStart? (scan : LineScan) : Option Nat :=
  (scan.spans.find? fun span => span.kind.isComment).map Span.start

/-- The text before the first comment: the whole line if it has none. -/
def beforeComment (scan : LineScan) : Text :=
  ((scan.tokens.takeWhile fun token => !token.kind.isComment).map Token.text).flatten

end LineScan

end LuaAssist

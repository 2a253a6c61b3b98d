import LuaAssist.Path
import LuaAssist.Text.Lines
import LuaAssist.Text.Alphanumeric
import LuaAssist.Text.Blank
import LuaAssist.Token.Lexer

/-!
# Function headers

A function header is found line by line: the word `function`, a name and a list of
parameters in parentheses. The name may be a chain, whose last segment is the
function's own name and whose earlier ones are its owner.
-/

namespace LuaAssist

/-- How a function belongs to its owner. -/
inductive Relation where
  /-- A function without owner. -/
  | free
  /-- Defined with `:`, with an implicit receiver. -/
  | method
  /-- Defined with `.`. -/
  | member
  deriving DecidableEq, Repr

/-- The sign between owner and name. -/
def Relation.separator? : Relation → Option Char
  | .free => none
  | .method => some ':'
  | .member => some '.'

/-- A function header. -/
structure Signature where
  /-- The header as written, from the name to the closing parenthesis. -/
  display : Text
  /-- The last segment of the name. -/
  name : Text
  /-- The segments before it, joined with `.`. -/
  owner : Option Text
  relation : Relation
  /-- The parameter list with its parentheses. -/
  rawParameters : Text
  parameters : List Text
  /-- The file that holds the header, if it is not an open document's or built in. -/
  origin : Option Path
  /-- The line, counted from one; zero for built-in functions. -/
  line : Nat
  deriving DecidableEq, Repr

namespace Signature

/-- Owner, separator and name. -/
def qualifiedName (signature : Signature) : Text :=
  match signature.owner, signature.relation.separator? with
  | some owner, some separator => owner ++ separator :: signature.name
  | _, _ => signature.name

/-- Drops one opening parenthesis in front and one closing parenthesis at the end. -/
def withoutParentheses (raw : Text) : Text :=
  let opened := if raw.head? = some '(' then raw.tail else raw
  if opened.getLast? = some ')' then opened.dropLast else opened

/-- The parameters of a list in parentheses, trimmed and without blank entries. -/
def splitParameters (raw : Text) : List Text :=
  ((Text.splitOn (· = ',') (withoutParentheses (Text.trim raw))).map Text.trim).filter
    fun parameter => !parameter.isEmpty

/-- The segments of a name, at `.` and `:`. -/
def segments (qualified : Text) : List Text :=
  (Text.splitOn (fun c => c = '.' || c = ':') qualified).map Text.trim

/-- The relation that the separators of a name mean: one `:` makes a method. -/
def relationOf (qualified : Text) : Relation :=
  if qualified.contains ':' then .method
  else if qualified.contains '.' then .member
  else .free

/-- A header taken apart: its name and its parameter list. -/
structure Header where
  /-- From the name to the closing parenthesis. -/
  display : Text
  qualified : Text
  rawParameters : Text

/-- The header behind the word `function`: everything before the first opening parenthesis
is the name, and the first closing one behind it ends the parameters. -/
def header? (behind : Text) : Option Header :=
  let text := Text.trimStart behind
  let name := text.takeWhile (· ≠ '(')
  let list := text.drop name.length
  let parameters := list.takeWhile (· ≠ ')')
  match list.drop parameters.length with
  | close :: _ =>
    some ⟨name ++ parameters ++ [close], Text.trim name, parameters ++ [close]⟩
  | [] => none

/-- The text of a line before its first comment, if nothing is open at its start. -/
def codeOf (line : Text) : Text := (Lexer.scan line .code).beforeComment

/-- The function defined on a line by its first `function`. A later one could add nothing,
for it would have to stand before the same parameter list. In a comment, or without a name,
no function is defined. -/
def ofLine? (number : Nat) (line : Text) : Option Signature := do
  let (before, behind) ← Text.cutAtWord? "function".toList Text.endsWord none line
  let header ← header? behind
  if (codeOf line).length ≤ before.length || header.qualified.isEmpty then none
  else
    let names := segments header.qualified
    some {
      display := header.display
      name := names.getLast?.getD []
      owner := if names.length ≤ 1 then none else some (Text.join ['.'] names.dropLast)
      relation := relationOf header.qualified
      rawParameters := header.rawParameters
      parameters := splitParameters header.rawParameters
      origin := none
      line := number }

/-- The functions defined on numbered lines. -/
def ofLines (number : Nat) : List Text → List Signature
  | [] => []
  | line :: rest => (ofLine? number line).toList ++ ofLines (number + 1) rest

/-- All functions that a text defines, at most one for each line. -/
def ofText (text : Text) : List Signature := ofLines 1 (Text.lines text)

/-- The same function, found in a file. -/
def withOrigin (origin : Path) (signature : Signature) : Signature :=
  { signature with origin := some origin }

end Signature

end LuaAssist

import LuaAssist.Text.Alphanumeric
import LuaAssist.Text.Blank

/-!
# The chain that is being typed

Leftwards from the cursor stand the part of a name that is typed so far and, before it,
the names through which it is reached. The text before the cursor is read backwards, so
everything here works on a reversed text: its first character is the nearest one.
-/

namespace LuaAssist

/-- The names typed up to the cursor. -/
structure TypedChain where
  /-- The complete names before the last separator, the outermost first. -/
  segments : List Text
  /-- The identifier directly left of the cursor, perhaps empty. -/
  partialName : Text
  /-- The offset at which the chain begins. -/
  start : Nat
  deriving DecidableEq, Repr

namespace TypedChain

/-- The text before an offset, nearest character first. -/
def leftOf (text : Text) (offset : Nat) : Text := (text.take offset).reverse

/-- Goes left over a group in parentheses of which `depth` are still closed, to the text
before its opening parenthesis. -/
def beforeGroup? (depth : Nat) : Text → Option Text
  | [] => none
  | c :: rest =>
    if c = ')' then beforeGroup? (depth + 1) rest
    else if c = '(' then if depth ≤ 1 then some rest else beforeGroup? (depth - 1) rest
    else beforeGroup? depth rest

/-- The text before a separator and, if one stands there, before the arguments of a call. -/
def beforeSeparator? (left : Text) : Option Text :=
  match Text.trimStart left with
  | [] => none
  | sign :: rest =>
    if sign = '.' || sign = ':' then
      let behind := Text.trimStart rest
      if behind.head? = some ')' then (beforeGroup? 0 behind).map Text.trimStart else some behind
    else none

/-- The next name to the left, reversed, and the text before it. A run that starts with a
digit is no name. -/
def nameLeft? (left : Text) : Option (Text × Text) := do
  let behind ← beforeSeparator? left
  let run := behind.takeWhile Text.isIdentifierPart
  if run.isEmpty || run.getLast?.any Char.isDigit then none
  else some (run.reverse, behind.drop run.length)

/-- All names to the left, the nearest first, and the text before them. Every name is
shorter than what is left, so there are no more names than characters. -/
def namesLeft : Nat → Text → List Text × Text
  | 0, left => ([], left)
  | steps + 1, left =>
    match nameLeft? left with
    | none => ([], left)
    | some (name, before) =>
      let (names, start) := namesLeft steps before
      (name :: names, start)

/-- The chain left of an offset. -/
def read (text : Text) (offset : Nat) : TypedChain :=
  let left := leftOf text offset
  let run := left.takeWhile Text.isIdentifierPart
  let (names, before) := namesLeft left.length (left.drop run.length)
  ⟨names.reverse, run.reverse, before.length⟩

end TypedChain

end LuaAssist

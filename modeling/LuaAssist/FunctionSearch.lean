import LuaAssist.Signature
import LuaAssist.Text.LetterCase
import LuaAssist.Text.Search

/-!
# Searching functions

A query without wildcards finds the functions whose header contains it, whatever the
letter case. A query with `*` or `?` is a pattern that some part of the header has to
match. Functions whose header starts with the query come first, and otherwise the order
of the document is kept.
-/

namespace LuaAssist.FunctionSearch

/-- One sign of a query with wildcards. -/
inductive Sign where
  /-- Any text. -/
  | anyText
  /-- Any one character. -/
  | anyChar
  /-- This character in either case. -/
  | char (c : Char)
  deriving DecidableEq, Repr

/-- What a character of a query means. -/
def Sign.ofChar (c : Char) : Sign :=
  if c = '*' then .anyText else if c = '?' then .anyChar else .char c

/-- The sign takes this character. -/
def Sign.takes (c : Char) : Sign → Bool
  | .char d => Text.foldChar c = Text.foldChar d
  | _ => true

/-- What is left of a text after the sign has taken one character. -/
def Sign.takeOne? (sign : Sign) : Text → Option Text
  | [] => none
  | c :: rest => if sign.takes c then some rest else none

/-- What can be left after a sign, if `rests` can be left before it. The rests are ends of
one text, the longest first, so any text leaves the ends of the longest. -/
def Sign.step (rests : List Text) (sign : Sign) : List Text :=
  match sign, rests with
  | .anyText, [] => []
  | .anyText, longest :: _ => Text.suffixes longest
  | sign, rests => rests.filterMap sign.takeOne?

/-- Some part of the text matches the signs. -/
def matchesPart (signs : List Sign) (text : Text) : Bool :=
  !(signs.foldl Sign.step (Text.suffixes text)).isEmpty

/-- The query has a wildcard. -/
def hasWildcard (query : Text) : Bool := query.contains '*' || query.contains '?'

/-- A header answers the query. -/
def finds (query display : Text) : Bool :=
  if hasWildcard query then matchesPart (query.map Sign.ofChar) display
  else Text.occursIn (Text.lowercase query) (Text.lowercase display)

/-- A header starts with the query. Letter case counts if the query has an uppercase
letter. -/
def startsWith (query display : Text) : Bool :=
  if query.any Text.isUppercase then query.isPrefixOf display
  else (Text.lowercase query).isPrefixOf (Text.lowercase display)

/-- A function that answers a query. -/
structure Found where
  /-- Name and parameters, or the qualified name where an earlier answer has that name. -/
  label : Text
  signature : Signature
  deriving DecidableEq, Repr

/-- How a function is shown behind answers with the given names. -/
def labelAfter (names : List Text) (signature : Signature) : Text :=
  if names.contains signature.name && signature.owner.isSome then signature.qualifiedName
  else signature.name ++ signature.rawParameters

/-- Functions with their labels, behind answers with the given names. -/
def labelled (names : List Text) : List Signature → List Found
  | [] => []
  | signature :: rest =>
    ⟨labelAfter names signature, signature⟩ :: labelled (signature.name :: names) rest

/-- The functions that answer a query, those that start with it first. -/
def search (signatures : List Signature) (query : Text) : List Found :=
  let found := labelled [] (signatures.filter fun s => finds query s.display)
  let (first, others) := found.partition fun f => startsWith query f.signature.display
  first ++ others

end LuaAssist.FunctionSearch

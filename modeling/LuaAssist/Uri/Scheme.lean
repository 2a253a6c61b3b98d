import LuaAssist.Text.Search

/-!
# Schemes of addresses

What an address consists of depends on its scheme. Addresses of files and of a few schemes
with a host are read more freely than the others.
-/

namespace LuaAssist.Uri

/-- Tabs and line ends do not count, wherever they stand. -/
def isIgnored (c : Char) : Bool := c = '\t' || c = '\n' || c = '\r'

/-- The characters that count. -/
def counting (text : Text) : Text := text.filter fun c => !isIgnored c

/-- Schemes with a host of their own kind and a default port. -/
def hostSchemes : List (Text × Text) :=
  [("http".toList, "80".toList), ("https".toList, "443".toList), ("ws".toList, "80".toList),
   ("wss".toList, "443".toList), ("ftp".toList, "21".toList)]

/-- The scheme of files. -/
def fileScheme : Text := "file".toList

/-- A backslash is a slash in these schemes, and a path is never empty. -/
def isSpecial (scheme : Text) : Bool :=
  scheme = fileScheme || hostSchemes.any fun (name, _) => name = scheme

/-- A slash, or what counts as one in the given scheme. -/
def isSlash (special : Bool) (c : Char) : Bool := c = '/' || (special && c = '\\')

/-- What follows a slash. -/
def afterSlash? (special : Bool) (text : Text) : Option Text :=
  match text.dropWhile isIgnored with
  | c :: rest => if isSlash special c then some rest else none
  | [] => none

/-- What follows two slashes. -/
def afterSlashes? (special : Bool) (text : Text) : Option Text := do
  afterSlash? special (← afterSlash? special text)

/-- Cuts before the first character that satisfies the predicate. -/
def cutBefore (stops : Char → Bool) (text : Text) : Text × Text :=
  (text.takeWhile fun c => !stops c, text.dropWhile fun c => !stops c)

/-- The scheme in lowercase and what follows its colon. -/
def scheme? (text : Text) : Option (Text × Text) :=
  let (front, behind) := cutBefore (· = ':') text
  let name := counting front
  if name.head?.any Char.isAlpha && !behind.isEmpty &&
      name.all (fun c => c.isAlphanum || c = '+' || c = '-' || c = '.') then
    some (name.map Char.toLower, behind.drop 1)
  else none

end LuaAssist.Uri

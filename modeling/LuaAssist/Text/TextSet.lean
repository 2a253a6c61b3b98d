import LuaAssist.Text.Measure

/-!
# Sets of texts

A set of texts as a tree: texts with the same first character share the branch of that
character. Asking for a text follows one branch for each of its characters, however many texts
the set has.
-/

namespace LuaAssist

/-- A set of texts. -/
inductive TextSet where
  | empty
  /-- The text that ends here, and others. -/
  | stop (others : TextSet)
  /-- The texts that start with a character, by what follows it, and others. -/
  | branch (first : Char) (below others : TextSet)
  deriving DecidableEq, Repr

namespace TextSet

/-- The set of one text. -/
def single : Text → TextSet
  | [] => .stop .empty
  | c :: rest => .branch c (single rest) .empty

/-- The set has a text. -/
def contains : TextSet → Text → Bool
  | empty, _ => false
  | stop others, text => text.isEmpty || others.contains text
  | branch _ _ others, [] => others.contains []
  | branch first below others, c :: rest =>
    if c = first then below.contains rest else others.contains (c :: rest)

/-- The set with one more text. -/
def insert : TextSet → Text → TextSet
  | empty, text => single text
  | stop others, [] => stop others
  | stop others, c :: rest => stop (others.insert (c :: rest))
  | branch first below others, [] => branch first below (others.insert [])
  | branch first below others, c :: rest =>
    if c = first then branch first (below.insert rest) others
    else branch first below (others.insert (c :: rest))

end TextSet

end LuaAssist

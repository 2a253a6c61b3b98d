import LuaAssist.Text.Measure

/-!
# Names and their members

A scope is a tree of names: the names that are visible, their members, and so on. It is
held as the list of all chains that lead from the root to a name, in the order in which
they became known. A chain never stands in the list without the chains in front of it,
so the children of a name come in the order in which they were added.
-/

namespace LuaAssist

/-- A name and the members reached from it. -/
abbrev Chain := List Text

/-- A tree of names. -/
structure Scope where
  /-- Every chain of the tree, each once. -/
  chains : List Chain
  deriving DecidableEq, Repr

namespace Scope

/-- The scope without names. -/
def empty : Scope := ⟨[]⟩

/-- The chain leads to a name; the empty chain leads to the root. -/
def contains (scope : Scope) (chain : Chain) : Bool := chain = [] || scope.chains.contains chain

/-- Adds one chain unless it is known. -/
def add (scope : Scope) (chain : Chain) : Scope :=
  if scope.contains chain then scope else ⟨scope.chains ++ [chain]⟩

/-- The chains that a chain passes through, the shortest first and itself last. -/
def fronts : Chain → List Chain
  | [] => []
  | name :: rest => [name] :: (fronts rest).map (name :: ·)

/-- Adds a chain with all chains that it passes through. -/
def enter (scope : Scope) (chain : Chain) : Scope := (fronts chain).foldl add scope

/-- The chain, or one that it passes through, is closed to additions. Chains that end
before `base` does are not asked. -/
def isSealed (closed : List Chain) (base chain : Chain) : Bool :=
  (fronts chain).any fun front => closed.contains (base ++ front)

/-- Adds members below a base, except those that are closed. -/
def absorb (scope : Scope) (base : Chain) (members : List Chain) (closed : List Chain) : Scope :=
  (members.filter fun chain => !isSealed closed base chain).foldl
    (fun s chain => s.add (base ++ chain)) scope

/-- What follows a base in a chain that properly goes on from it. -/
def after? (base chain : Chain) : Option Chain :=
  if base.isPrefixOf chain && base.length < chain.length then some (chain.drop base.length)
  else none

/-- The chains below a base, told from there. -/
def below (scope : Scope) (base : Chain) : List Chain := scope.chains.filterMap (after? base)

/-- The members of a name, or the visible names for the empty chain, if the scope knows the
chain. -/
def members? (scope : Scope) (chain : Chain) : Option (List Text) :=
  if scope.contains chain then
    some ((scope.below chain).filterMap fun rest =>
      match rest with
      | [name] => some name
      | _ => none)
  else none

/-- The visible names. -/
def names (scope : Scope) : List Text := (scope.members? []).getD []

/-- The names below a chain with their depth, parents before their members, down to the
given number of levels. -/
def outlineFrom (scope : Scope) (base : Chain) : Nat → List (Nat × Text)
  | 0 => []
  | levels + 1 =>
    ((scope.members? base).getD []).flatMap fun name =>
      (base.length, name) :: scope.outlineFrom (base ++ [name]) levels

/-- All names with their depth, parents before their members. -/
def outline (scope : Scope) : List (Nat × Text) :=
  scope.outlineFrom [] ((scope.chains.map List.length).foldl max 0)

end Scope

end LuaAssist

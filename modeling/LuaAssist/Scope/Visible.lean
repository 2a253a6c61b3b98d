import LuaAssist.Scope.Binding

/-!
# What is visible at a place

Bindings are applied from the nearest to the farthest. A binding of a chain closes it:
whatever earlier bindings said about the chain, or about anything below it, is hidden.
Aliases come last, so that they see the final members of the tables they share.
-/

namespace LuaAssist.Scope

/-- What the walk through the bindings knows. -/
structure Walk where
  scope : Scope
  /-- The chains that are bound. -/
  closed : List Chain
  /-- The visible aliases with their targets, in document order. -/
  aliases : List (Chain × Chain)

/-- Nothing is known yet. -/
def Walk.start : Walk := ⟨.empty, [], []⟩

/-- The walk goes on to an earlier binding. -/
def Walk.step (walk : Walk) (binding : Binding) : Walk :=
  if isSealed walk.closed [] binding.path then walk
  else {
    scope := (walk.scope.enter binding.path).absorb binding.path binding.value.members walk.closed
    closed := binding.path :: walk.closed
    aliases := match binding.value.target with
      | some target => (binding.path, target) :: walk.aliases
      | none => walk.aliases }

/-- The walk through all bindings, from the last to the first. -/
def Walk.through (bindings : List Binding) : Walk := bindings.reverse.foldl Walk.step .start

/-- An alias gets the members that its target has by now, as far as they are not closed. -/
def share (closed : List Chain) (scope : Scope) (link : Chain × Chain) : Scope :=
  if scope.contains link.2 then
    (scope.enter link.1).absorb link.1 (scope.below link.2) closed
  else scope

/-- The names that bindings make visible, with their members. -/
def ofBindings (bindings : List Binding) : Scope :=
  let walk := Walk.through bindings
  walk.aliases.foldl (share walk.closed) walk.scope

/-- The names that are visible at an offset: those bound on the lines above its line. -/
def visible (text : Text) (offset : Nat) : Scope :=
  ofBindings (Binding.collect (Word.before text offset))

end LuaAssist.Scope

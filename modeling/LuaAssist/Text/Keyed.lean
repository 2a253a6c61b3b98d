import LuaAssist.Text.Measure

/-!
# Values under names

A map from texts to values that remembers the order in which its names first came up.
-/

namespace LuaAssist

/-- Names with their values, in the order in which the names were first used. -/
structure Keyed (α : Type) where
  entries : List (Text × α)
  deriving DecidableEq, Repr

namespace Keyed

variable {α : Type}

/-- No names. -/
def empty : Keyed α := ⟨[]⟩

/-- The value under a name. -/
def get? (map : Keyed α) (name : Text) : Option α := map.entries.lookup name

/-- The names in order. -/
def names (map : Keyed α) : List Text := map.entries.map Prod.fst

/-- Changes the value under a name, which keeps its place; a new name comes last. The change
is told the old value. -/
def alterEntries (change : Option α → α) (name : Text) : List (Text × α) → List (Text × α)
  | [] => [(name, change none)]
  | (other, value) :: rest =>
    if other = name then (other, change (some value)) :: rest
    else (other, value) :: alterEntries change name rest

/-- Puts a value under a name. -/
def set (map : Keyed α) (name : Text) (value : α) : Keyed α :=
  ⟨alterEntries (fun _ => value) name map.entries⟩

/-- Appends a value to those under a name. -/
def push (map : Keyed (List α)) (name : Text) (value : α) : Keyed (List α) :=
  ⟨alterEntries (fun old => old.getD [] ++ [value]) name map.entries⟩

end Keyed

end LuaAssist

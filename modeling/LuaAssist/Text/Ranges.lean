/-!
# Sets of code points

A property of characters is a list of ranges of code points, and a case mapping is a
list of runs that move by one distance.
-/

namespace LuaAssist.Text

/-- Ranges of code points, first and last, in rising order. -/
abbrev Ranges := List (Nat × Nat)

/-- A code point lies in one of the ranges. -/
def Ranges.contains (ranges : Ranges) (code : Nat) : Bool :=
  ranges.any fun (first, last) => first ≤ code && code ≤ last

/-- Every `step`-th code point from `first` to `last` moves by `distance`. -/
structure Shift where
  first : Nat
  last : Nat
  step : Nat
  distance : Int

/-- The run moves this code point. -/
def Shift.covers (shift : Shift) (code : Nat) : Bool :=
  shift.first ≤ code && code ≤ shift.last && (code - shift.first) % shift.step = 0

/-- The code point after the first run that moves it; others stay. -/
def moved (shifts : List Shift) (code : Nat) : Nat :=
  match shifts.find? fun shift => shift.covers code with
  | some shift => (code + shift.distance).toNat
  | none => code

end LuaAssist.Text

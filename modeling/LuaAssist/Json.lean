import LuaAssist.Text.Measure

/-!
# Values of messages and settings

The values that editors send and receive. Whole numbers are kept apart from all others,
for only they are ever used.
-/

namespace LuaAssist

/-- A value in a message. -/
inductive Json where
  | null
  | bool (value : Bool)
  | int (value : Int)
  /-- A number that is not written as a whole one. -/
  | real (written : Text)
  | text (value : Text)
  | list (items : List Json)
  | object (fields : List (Text × Json))
  deriving Repr, Inhabited

namespace Json

/-- The value under a key of an object. -/
def get? (json : Json) (key : String) : Option Json :=
  match json with
  | .object fields => fields.lookup key.toList
  | _ => none

/-- A text. -/
def text? : Json → Option Text
  | .text value => some value
  | _ => none

/-- A truth value. -/
def bool? : Json → Option Bool
  | .bool value => some value
  | _ => none

/-- A whole number. -/
def int? : Json → Option Int
  | .int value => some value
  | _ => none

/-- The items of a list. -/
def list? : Json → Option (List Json)
  | .list items => some items
  | _ => none

/-- A whole number from zero up to the given one. -/
def natUpTo? (limit : Nat) (json : Json) : Option Nat := do
  let value ← json.int?
  if 0 ≤ value && value ≤ limit then some value.toNat else none

/-- A text that is written into messages. -/
def ofString (value : String) : Json := .text value.toList

/-- A natural number. -/
def ofNat (value : Nat) : Json := .int value

/-- An object with the given fields. -/
def ofFields (fields : List (String × Json)) : Json :=
  .object (fields.map fun (key, value) => (key.toList, value))

/-- A field that is left out if there is no value. -/
def fieldIfSome {α : Type} (key : String) (write : α → Json) : Option α → List (String × Json)
  | some value => [(key, write value)]
  | none => []

end Json

end LuaAssist

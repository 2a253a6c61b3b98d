import LuaAssist.Domain.MappingTables
import LuaAssist.Text.LetterCase

/-!
# Mapping characters of domains

What a reader takes for the same character becomes one character: letters become lowercase,
forms become what they are forms of, and characters that show nothing are left out.
-/

namespace LuaAssist.Domain

open Text (foldChar moved)

/-- The character that a range of forms stands for. -/
def mergedInto? (code : Nat) : Option Char :=
  (MappingTables.merged.find? fun (first, last, _) => first ≤ code && code ≤ last).map
    fun (_, _, target) => Char.ofNat target

/-- The ideograph of which this is a form. -/
def ideograph? (code : Nat) : Option Char :=
  MappingTables.ideographs.findSome? fun (first, forms) =>
    if first ≤ code then forms.toList[code - first]? else none

/-- The characters that one character becomes. One that no domain contains becomes nothing.
The final form of sigma stays. -/
def mapChar? (c : Char) : Option Text :=
  let code := c.toNat
  if code < 0x80 then some [c.toLower]
  else if c = '\u03c2' then some [c]
  else if MappingTables.ignored.contains code then some []
  else
    match MappingTables.spelled.lookup code, mergedInto? code, ideograph? code with
    | some text, _, _ => some text.toList
    | none, some target, _ => some [target]
    | none, none, some target => some [target]
    | none, none, none =>
      let form := Char.ofNat (moved MappingTables.shifted code)
      let lower := foldChar c
      if form ≠ c then some [form]
      else if lower ≠ c then some [lower]
      else if MappingTables.refused.contains code then none
      else some [c]

/-- The text that a text becomes. -/
def map? (text : Text) : Option Text := (text.mapM mapChar?).map List.flatten

/-- The character becomes itself. -/
def isPlain (c : Char) : Bool := mapChar? c = some [c]

end LuaAssist.Domain

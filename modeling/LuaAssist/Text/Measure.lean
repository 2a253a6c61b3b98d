/-!
# Text and its three measures

Text is a list of characters. Columns and lengths are counted in characters, in
bytes of UTF-8, or in units of UTF-16; a count in bytes or units is a function on
the text, so the three never mix.
-/

namespace LuaAssist

/-- Text is a list of Unicode characters. -/
abbrev Text := List Char

namespace Text

/-- What is said of all characters of a text is decided along the text. -/
instance (priority := high) {p : Char → Prop} [DecidablePred p] (text : Text) :
    Decidable (∀ c ∈ text, p c) := List.decidableBAll p text

/-- What is said of a character that may be missing is decided there. -/
instance (priority := high) {p : Char → Prop} [DecidablePred p] (char? : Option Char) :
    Decidable (∀ c ∈ char?, p c) := Option.decidableForallMem char?

/-- The bytes that one character takes in UTF-8, between one and four. -/
def utf8Width (c : Char) : Nat :=
  if c.toNat < 0x80 then 1 else if c.toNat < 0x800 then 2 else if c.toNat < 0x10000 then 3 else 4

/-- The units that one character takes in UTF-16: two beyond the basic plane. -/
def utf16Width (c : Char) : Nat :=
  if c.toNat < 0x10000 then 1 else 2

/-- The bytes that a text takes in UTF-8. -/
def utf8Length : Text → Nat
  | [] => 0
  | c :: rest => utf8Width c + utf8Length rest

/-- The units that a text takes in UTF-16. -/
def utf16Length : Text → Nat
  | [] => 0
  | c :: rest => utf16Width c + utf16Length rest

/-- Every character has a byte. -/
theorem utf8Width_pos (c : Char) : 0 < utf8Width c := by
  unfold utf8Width
  split <;> try split <;> try split
  all_goals omega

/-- Every character has a unit. -/
theorem utf16Width_pos (c : Char) : 0 < utf16Width c := by
  unfold utf16Width
  split <;> omega

/-- The bytes of both texts. -/
@[simp]
theorem utf8Length_append (s t : Text) : utf8Length (s ++ t) = utf8Length s + utf8Length t := by
  induction s with
  | nil => simp [utf8Length]
  | cons c rest ih => simp [utf8Length, ih, Nat.add_assoc]

/-- The units of both texts. -/
@[simp]
theorem utf16Length_append (s t : Text) :
    utf16Length (s ++ t) = utf16Length s + utf16Length t := by
  induction s with
  | nil => simp [utf16Length]
  | cons c rest ih => simp [utf16Length, ih, Nat.add_assoc]

end Text

end LuaAssist

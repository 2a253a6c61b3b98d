import LuaAssist.Text.Utf8

/-!
# Percent signs in addresses

A character that may not stand in some part of an address is written as its bytes, each a
percent sign with two digits. What is escaped differs from part to part.
-/

namespace LuaAssist.Uri

/-- Control characters and everything beyond ASCII are always escaped. -/
def escapesControl (c : Char) : Bool := c.toNat < 0x20 || 0x7F ≤ c.toNat

/-- Escaped in a fragment. -/
def escapesFragment (c : Char) : Bool :=
  escapesControl c || c = ' ' || c = '"' || c = '<' || c = '>' || c.toNat = 0x60

/-- Escaped in a path. -/
def escapesPath (c : Char) : Bool :=
  escapesFragment c || c = '#' || c = '?' || c.toNat = 0x7B || c.toNat = 0x7D

/-- Escaped in the name of a file. -/
def escapesName (c : Char) : Bool := escapesPath c || c = '/' || c = '%' || c = '\\'

/-- Escaped in the name of a user. -/
def escapesUser (c : Char) : Bool :=
  escapesPath c || c = '/' || c = ':' || c = ';' || c = '=' || c = '@' || c = '[' ||
    c = '\\' || c = ']' || c = '^' || c = '|'

/-- Escaped in a query. In some schemes an apostrophe is escaped, too. -/
def escapesQuery (special : Bool) (c : Char) : Bool :=
  escapesControl c || c = ' ' || c = '"' || c = '#' || c = '<' || c = '>' ||
    (special && c = '\'')

/-- A digit of base sixteen, in capitals. -/
def hexDigit (n : Nat) : Char := if n < 10 then Char.ofNat (48 + n) else Char.ofNat (55 + n)

/-- The value of a digit of base sixteen. -/
def hexValue? (c : Char) : Option Nat :=
  if '0' ≤ c && c ≤ '9' then some (c.toNat - 48)
  else if 'a' ≤ c && c ≤ 'f' then some (c.toNat - 87)
  else if 'A' ≤ c && c ≤ 'F' then some (c.toNat - 55)
  else none

/-- A percent sign and the two digits of a byte. -/
def escapeByte (byte : UInt8) : Text :=
  ['%', hexDigit (byte.toNat / 16), hexDigit (byte.toNat % 16)]

/-- Escapes the bytes of the chosen characters. -/
def escape (chosen : Char → Bool) (text : Text) : Text :=
  text.flatMap fun c => if chosen c then (Text.utf8Char c).flatMap escapeByte else [c]

/-- The byte that a character and the two behind it escape. -/
def escapedByte? (c : Char) (rest : Text) : Option UInt8 :=
  match rest with
  | a :: b :: _ =>
    if c = '%' then do return UInt8.ofNat (16 * (← hexValue? a) + (← hexValue? b)) else none
  | _ => none

/-- The bytes that a text stands for. A percent sign without two digits stands for itself. -/
def unescape : Text → List UInt8
  | [] => []
  | c :: rest =>
    match escapedByte? c rest with
    | some byte => byte :: unescape (rest.drop 2)
    | none => Text.utf8Char c ++ unescape rest
  termination_by text => text.length
  decreasing_by all_goals simp only [List.length_drop, List.length_cons]; omega

end LuaAssist.Uri

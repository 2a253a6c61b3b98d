import LuaAssist.Json

/-!
# Writing values

A value as one line of text. Characters that would end a quoted text, and control
characters, are escaped.
-/

namespace LuaAssist.Json

/-- A digit of base sixteen. -/
def hexDigit (n : Nat) : Char := if n < 10 then Char.ofNat (48 + n) else Char.ofNat (87 + n)

/-- A character inside quotes. -/
def quotedChar (c : Char) : Text :=
  if c = '"' || c = '\\' then ['\\', c]
  else if c = '\n' then ['\\', 'n']
  else if c = '\r' then ['\\', 'r']
  else if c = '\t' then ['\\', 't']
  else if c.toNat < 0x20 then
    ['\\', 'u', '0', '0', hexDigit (c.toNat / 16), hexDigit (c.toNat % 16)]
  else [c]

/-- A text in quotes. -/
def quoted (text : Text) : Text := '"' :: text.flatMap quotedChar ++ ['"']

mutual

/-- A value as text. -/
def render : Json → Text
  | .null => "null".toList
  | .bool value => if value then "true".toList else "false".toList
  | .int value => (Int.repr value).toList
  | .real written => written
  | .text value => quoted value
  | .list items => '[' :: renderItems items ++ [']']
  | .object fields => '\x7b' :: renderFields fields ++ ['\x7d']

/-- Items with commas between them. -/
def renderItems : List Json → Text
  | [] => []
  | [item] => render item
  | item :: next :: rest => render item ++ ',' :: renderItems (next :: rest)

/-- Fields with commas between them. -/
def renderFields : List (Text × Json) → Text
  | [] => []
  | [(key, value)] => quoted key ++ ':' :: render value
  | (key, value) :: next :: rest =>
    quoted key ++ ':' :: render value ++ ',' :: renderFields (next :: rest)

end

end LuaAssist.Json

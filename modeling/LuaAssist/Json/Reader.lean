import LuaAssist.Json

/-!
# Reading values

A value is read from the front of a text, and what is left of the text comes with it.
Reading goes one level deeper or one item further at each step. Of two steps at least one
uses up text, so the length of the text bounds the steps.
-/

namespace LuaAssist.Json

/-- Drops blanks. -/
def skipBlanks (text : Text) : Text :=
  text.dropWhile fun c => c = ' ' || c = '\t' || c = '\n' || c = '\r'

/-- The value of a digit of base sixteen. -/
def hexValue? (c : Char) : Option Nat :=
  if '0' ≤ c && c ≤ '9' then some (c.toNat - 48)
  else if 'a' ≤ c && c ≤ 'f' then some (c.toNat - 87)
  else if 'A' ≤ c && c ≤ 'F' then some (c.toNat - 55)
  else none

/-- Four digits of base sixteen, and what follows them. -/
def unit? : Text → Option (Nat × Text)
  | a :: b :: c :: d :: rest => do
    let high := 16 * (← hexValue? a) + (← hexValue? b)
    return (256 * high + 16 * (← hexValue? c) + (← hexValue? d), rest)
  | _ => none

/-- The character that an escape with units of UTF-16 means. A character beyond the basic
plane needs two units, of which the first is told already. -/
def escapedUnits? (first : Nat) (rest : Text) : Option (Char × Text) :=
  if first < 0xD800 || 0xE000 ≤ first then some (Char.ofNat first, rest)
  else if 0xDC00 ≤ first then none
  else match rest with
    | '\\' :: 'u' :: digits => do
      let (second, after) ← unit? digits
      if second < 0xDC00 || 0xE000 ≤ second then none
      else some (Char.ofNat (0x10000 + 1024 * (first - 0xD800) + (second - 0xDC00)), after)
    | _ => none

/-- The character behind a backslash, and what follows it. -/
def escaped? : Text → Option (Char × Text)
  | '"' :: rest => some ('"', rest)
  | '\\' :: rest => some ('\\', rest)
  | '/' :: rest => some ('/', rest)
  | 'b' :: rest => some ('\x08', rest)
  | 'f' :: rest => some ('\x0c', rest)
  | 'n' :: rest => some ('\n', rest)
  | 'r' :: rest => some ('\r', rest)
  | 't' :: rest => some ('\t', rest)
  | 'u' :: rest => do
    let (first, after) ← unit? rest
    escapedUnits? first after
  | _ => none

/-- A quoted text behind its opening quote, in at most the given number of characters. -/
def textFrom? : Nat → Text → Option (Text × Text)
  | 0, _ => none
  | _, [] => none
  | steps + 1, c :: rest =>
    if c = '"' then some ([], rest)
    else if c.toNat < 0x20 then none
    else do
      let (c, rest) ← if c = '\\' then escaped? rest else some (c, rest)
      let (content, after) ← textFrom? steps rest
      return (c :: content, after)

/-- A quoted text behind its opening quote. -/
def quotedText? (text : Text) : Option (Text × Text) := textFrom? (text.length + 1) text

/-- At least one digit, and what follows them. -/
def digits? (text : Text) : Option (Text × Text) :=
  match text.takeWhile Char.isDigit with
  | [] => none
  | digits => some (digits, text.drop digits.length)

/-- A whole number without superfluous zeros in front. -/
def whole? (text : Text) : Option (Text × Text) := do
  let (digits, rest) ← digits? text
  if digits.head? = some '0' && 1 < digits.length then none else some (digits, rest)

/-- The places behind the point, if there is a point. -/
def fraction? (text : Text) : Option (Text × Text) :=
  match text with
  | '.' :: rest => do
    let (digits, after) ← digits? rest
    return ('.' :: digits, after)
  | _ => some ([], text)

/-- The exponent, if there is one. -/
def exponent? (text : Text) : Option (Text × Text) :=
  match text with
  | mark :: rest =>
    if mark = 'e' || mark = 'E' then do
      let sign := rest.takeWhile fun c => c = '+' || c = '-'
      if 1 < sign.length then none
      else
        let (digits, after) ← digits? (rest.drop sign.length)
        return (mark :: sign ++ digits, after)
    else some ([], text)
  | [] => some ([], text)

/-- A number. It is whole if it has neither places nor an exponent; zero with a sign is not. -/
def number? (text : Text) : Option (Json × Text) := do
  let minus := text.takeWhile (· = '-')
  if 1 < minus.length then none
  else
    let (whole, rest) ← whole? (text.drop minus.length)
    let (places, rest) ← fraction? rest
    let (power, rest) ← exponent? rest
    let size : Nat := whole.foldl (fun total c => total * 10 + (c.toNat - 48)) 0
    if !places.isEmpty || !power.isEmpty || (!minus.isEmpty && size = 0) then
      some (.real (minus ++ whole ++ places ++ power), rest)
    else some (.int (if minus.isEmpty then size else -(size : Int)), rest)

/-- What follows a word at the front of a text. -/
def afterWord? (word text : Text) : Option Text :=
  if word.isPrefixOf text then some (text.drop word.length) else none

mutual

/-- A value at the front of a text, and what follows it. -/
def value? : Nat → Text → Option (Json × Text)
  | 0, _ => none
  | steps + 1, source =>
    match skipBlanks source with
    | [] => none
    | c :: rest =>
      if c = '"' then (quotedText? rest).map fun (content, after) => (.text content, after)
      else if c = '[' then
        match skipBlanks rest with
        | ']' :: after => some (.list [], after)
        | _ => (items? steps rest).map fun (items, after) => (.list items, after)
      else if c = '\x7b' then
        match skipBlanks rest with
        | '\x7d' :: after => some (.object [], after)
        | _ => (fields? steps [] rest).map fun (fields, after) => (.object fields, after)
      else if c = 'n' then (afterWord? "null".toList (c :: rest)).map fun after => (.null, after)
      else if c = 't' then
        (afterWord? "true".toList (c :: rest)).map fun after => (.bool true, after)
      else if c = 'f' then
        (afterWord? "false".toList (c :: rest)).map fun after => (.bool false, after)
      else number? (c :: rest)

/-- At least one item, up to the closing bracket. -/
def items? : Nat → Text → Option (List Json × Text)
  | 0, _ => none
  | steps + 1, source => do
    let (item, rest) ← value? steps source
    match skipBlanks rest with
    | ']' :: after => some ([item], after)
    | ',' :: more =>
      let (items, after) ← items? steps more
      return (item :: items, after)
    | _ => none

/-- At least one field, up to the closing brace, behind the known fields. Of fields with the
same key the last one counts. -/
def fields? : Nat → List (Text × Json) → Text → Option (List (Text × Json) × Text)
  | 0, _, _ => none
  | steps + 1, known, source => do
    let '"' :: behind := skipBlanks source | none
    let (key, rest) ← quotedText? behind
    let ':' :: behind := skipBlanks rest | none
    let (value, rest) ← value? steps behind
    let fields := known.filter (fun (other, _) => other ≠ key) ++ [(key, value)]
    match skipBlanks rest with
    | '\x7d' :: after => some (fields, after)
    | ',' :: more => fields? steps fields more
    | _ => none

end

/-- The value that a text spells, with blanks around it at most. -/
def ofText? (source : Text) : Option Json := do
  let (value, rest) ← value? (2 * source.length + 2) source
  if (skipBlanks rest).isEmpty then some value else none

end LuaAssist.Json

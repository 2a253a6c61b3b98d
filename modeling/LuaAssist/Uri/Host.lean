import LuaAssist.Domain
import LuaAssist.Uri.Escape
import LuaAssist.Uri.Scheme

/-!
# Hosts of addresses

A host is a number of four bytes, a number of eight groups in brackets, or a name. Numbers
have one spelling each, and a name in a special scheme is a domain.
-/

namespace LuaAssist.Uri

/-- The digits of a number in base ten. -/
def decimal (n : Nat) : Text := (Nat.repr n).toList

/-! ## Four bytes -/

/-- The number that a part of a numeric host spells, in base eight, ten or sixteen. -/
def hostNumber? (part : Text) : Option Nat :=
  let digits := fun (base : Nat) (text : Text) =>
    text.foldlM (fun total c => do
      let value ← hexValue? c
      if value < base then some (total * base + value) else none) 0
  match part with
  | [] => none
  | '0' :: x :: rest => if x = 'x' || x = 'X' then digits 16 rest else digits 8 (x :: rest)
  | _ => digits 10 part

/-- A host whose last part is a number is four bytes, given by up to four numbers of which
the last one fills what is left. -/
def numericHost? (parts : List Text) : Option Text := do
  let numbers ← parts.mapM hostNumber?
  let last ← numbers.getLast?
  let front := numbers.dropLast
  if 4 < numbers.length || front.any (255 < ·) || 1 <<< (8 * (5 - numbers.length)) ≤ last then none
  else
    let value := (List.range front.length).foldl
      (fun value i => value + front.getD i 0 <<< (8 * (3 - i))) last
    some (Text.join ['.'] ([3, 2, 1, 0].map fun place =>
      decimal ((value >>> (8 * place)) % 256)))

/-- The parts of a domain, without an empty one behind a final point. -/
def domainParts (domain : Text) : List Text :=
  let parts := Text.splitOn (· = '.') domain
  if parts.getLast? = some [] && 1 < parts.length then parts.dropLast else parts

/-- The last part of a domain is a number. -/
def endsInNumber (domain : Text) : Bool :=
  match (domainParts domain).getLast? with
  | some part => (!part.isEmpty && part.all Char.isDigit) || (hostNumber? part).isSome
  | none => false

/-! ## Eight groups -/

/-- A group of up to four digits of base sixteen. -/
def group? (text : Text) : Option Nat :=
  if text.isEmpty || 4 < text.length then none
  else text.foldlM (fun total c => do return total * 16 + (← hexValue? c)) 0

/-- A byte in base ten, without zeros in front. -/
def byte? (text : Text) : Option Nat :=
  let value := text.foldl (fun total c => total * 10 + (c.toNat - 48)) 0
  if text.isEmpty || !text.all Char.isDigit || (text.head? = some '0' && text ≠ ['0']) ||
      255 < value then none
  else some value

/-- Four bytes in base ten are two groups. -/
def byteGroups? (text : Text) : Option (List Nat) := do
  match ← (Text.splitOn (· = '.') text).mapM byte? with
  | [a, b, c, d] => some [a * 256 + b, c * 256 + d]
  | _ => none

/-- Groups with colons between them. The last ones may be given as bytes where `bytes`
says so. -/
def groups? (bytes : Bool) (text : Text) : Option (List Nat) :=
  let pieces := Text.splitOn (· = ':') text
  match pieces.getLast? with
  | some last =>
    if text.isEmpty then some []
    else do
      let front ← pieces.dropLast.mapM group?
      let behind ← if bytes && last.contains '.' then byteGroups? last
        else (group? last).map ([·])
      return front ++ behind
  | none => none

/-- Cuts at the first double colon. -/
def cutDoubleColon? : Text → Option (Text × Text)
  | ':' :: ':' :: rest => some ([], rest)
  | c :: rest => (cutDoubleColon? rest).map fun (front, behind) => (c :: front, behind)
  | [] => none

/-- The eight groups that a text spells. A double colon stands for one or more that are
zero. -/
def eightGroups? (text : Text) : Option (List Nat) := do
  match cutDoubleColon? text with
  | none =>
    let all ← groups? true text
    if all.length = 8 then some all else none
  | some (front, behind) =>
    let first ← groups? false front
    let last ← groups? true behind
    let given := first.length + last.length
    if given ≤ 7 then some (first ++ List.replicate (8 - given) 0 ++ last) else none

/-- The number of zeros at the front. -/
def zerosAt (groups : List Nat) : Nat := (groups.takeWhile (· = 0)).length

/-- Where the first of the longest runs of zeros starts. -/
def zerosStart (groups : List Nat) : Nat :=
  (List.range groups.length).foldl
    (fun best i => if zerosAt (groups.drop best) < zerosAt (groups.drop i) then i else best) 0

/-- Groups in base sixteen with colons between them. -/
def spellGroups (groups : List Nat) : Text :=
  Text.join [':'] (groups.map fun group => Nat.toDigits 16 group)

/-- The spelling of eight groups. A double colon stands for the first of the longest runs of
zeros, if it is longer than one. -/
def spellEight (groups : List Nat) : Text :=
  let start := zerosStart groups
  let count := zerosAt (groups.drop start)
  if count < 2 then spellGroups groups
  else spellGroups (groups.take start) ++ "::".toList ++ spellGroups (groups.drop (start + count))

/-- A host in brackets. -/
def bracketed? (text : Text) : Option Text := do
  if text.getLast? = some ']' then
    some ('[' :: spellEight (← eightGroups? (text.drop 1).dropLast) ++ [']'])
  else none

/-! ## Names -/

/-- Characters that no host contains. -/
def isForbidden (c : Char) : Bool :=
  c.toNat = 0 || "\t\n\r #/:<>?@[\\]^|".toList.contains c

/-- A host in its final spelling. -/
def host? (special : Bool) (text : Text) : Option Text := do
  if text.head? = some '[' then bracketed? text
  else if special then
    let domain ← Domain.ascii? (← Text.ofUtf8? (unescape text))
    if domain.isEmpty then none
    else if endsInNumber domain then numericHost? (domainParts domain)
    else some domain
  else if text.any isForbidden then none
  else some (escape escapesControl text)

/-- Cuts a host before the colon of its port. Colons in brackets belong to the host. -/
def cutPort (inBrackets : Bool) : Text → Text × Text
  | [] => ([], [])
  | c :: rest =>
    if c = ':' && !inBrackets then ([], c :: rest)
    else
      let (host, port) := cutPort (if c = '[' then true else if c = ']' then false else inBrackets)
        rest
      (c :: host, port)

/-- A host and its port, and what is behind a backslash that ends the port. The default port
is not written. -/
def hostAndPort? (scheme text : Text) : Option (Text × Text × Text) := do
  let (name, tail) := cutPort false text
  let host ← host? (isSpecial scheme) name
  match tail with
  | [] => some (host, [], [])
  | _ :: behind =>
    let (digits, rest) := cutBefore (fun c => !c.isDigit) behind
    let number := digits.foldl (fun total c => total * 10 + (c.toNat - 48)) 0
    if host.isEmpty || !rest.head?.all (· = '\\') || 65535 < number then none
    else if digits.isEmpty || hostSchemes.lookup scheme = some (decimal number) then
      some (host, [], rest)
    else some (host, ':' :: decimal number, rest)

/-- A user and a password in their final spelling, with the sign behind them. -/
def user (text : Text) : Text :=
  let (name, tail) := cutBefore (· = ':') text
  let password := tail.drop 1
  if name.isEmpty && password.isEmpty then []
  else
    escape escapesUser name ++
      (if password.isEmpty then [] else ':' :: escape escapesUser password) ++ ['@']

end LuaAssist.Uri

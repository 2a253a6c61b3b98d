import LuaAssist.Text.Measure

/-!
# Labels in ASCII

A text with characters beyond ASCII is written as its ASCII characters, a hyphen, and the
other characters as numbers. Every number tells how many places to go on, where the places of
a text are counted once for every code point in turn. Digits have base thirty-six, lowest
first, and a threshold for every digit tells whether it is the last one of its number.
-/

namespace LuaAssist.Domain.Punycode

/-- The value of a digit: letters of either case, and then the ten digits. -/
def digit? (c : Char) : Option Nat :=
  if c.isAlpha then some (c.toLower.toNat - 97)
  else if c.isDigit then some (c.toNat - 22)
  else none

/-- The digit of a value below thirty-six. -/
def digitOf (value : Nat) : Char :=
  if value < 26 then Char.ofNat (97 + value) else Char.ofNat (22 + value)

/-- A digit below the threshold of its place is the last one. The first place is thirty-six,
and every further one comes thirty-six later. -/
def threshold (place bias : Nat) : Nat := min 26 (max 1 (place - bias))

/-- A digit of value zero is always the last one of its number. -/
theorem threshold_pos (place bias : Nat) : 0 < threshold place bias := by
  unfold threshold
  omega

/-- Finds the place up to which the digits of a distance count. -/
def settle (place distance : Nat) : Nat :=
  if 455 < distance then settle (place + 36) (distance / 35)
  else place + 36 * distance / (distance + 38)
  termination_by distance
  decreasing_by omega

/-- The bias after a number: numbers that follow each other tend to be of one size. The first
number of a text is far larger than the others. -/
def adapt (distance count : Nat) (isFirst : Bool) : Nat :=
  let damped := if isFirst then distance / 700 else distance / 2
  settle 0 (damped + damped / count)

/-- The first bias. -/
def firstBias : Nat := 72

/-- The first code point that is written as a number. -/
def firstCode : Nat := 0x80

/-! ## Reading -/

/-- A reader of numbers: the text so far, the code point and the index that were reached, and
the number that is being read. -/
structure Reading where
  known : Text
  code : Nat
  index : Nat
  bias : Nat
  /-- The place of the next digit. -/
  place : Nat
  /-- What the next digit counts. -/
  weight : Nat
  /-- The index that is reached with the digits so far. -/
  total : Nat

/-- The reader starts with the ASCII characters. -/
def Reading.start (known : Text) : Reading := ⟨known, firstCode, 0, firstBias, 36, 1, 0⟩

/-- One digit. The last digit of a number puts a character into the text. -/
def Reading.step (r : Reading) (c : Char) : Option Reading := do
  let digit ← digit? c
  let total := r.total + digit * r.weight
  let limit := threshold r.place r.bias
  if digit < limit then
    let count := r.known.length + 1
    let code := r.code + total / count
    let index := total % count
    if code < 0xD800 || (0xDFFF < code && code < 0x110000) then
      some {
        known := r.known.insertIdx index (Char.ofNat code)
        code := code
        index := index + 1
        bias := adapt (total - r.index) count (r.index = 0)
        place := 36
        weight := 1
        total := index + 1 }
    else none
  else some { r with place := r.place + 36, weight := r.weight * (36 - limit), total := total }

/-- The ASCII characters in front of the last hyphen, and the digits behind it. A hyphen with
nothing in front of it separates nothing. -/
def parts (text : Text) : Text × Text :=
  let digits := (text.reverse.takeWhile (· ≠ '-')).reverse
  let known := text.take (text.length - digits.length - 1)
  if known.isEmpty then ([], text) else (known, digits)

/-- The text that is written by the given one. -/
def decode? (text : Text) : Option Text := do
  let (known, digits) := parts text
  let r ← digits.foldlM Reading.step (Reading.start known)
  if r.place = 36 then some r.known else none

/-! ## Writing -/

/-- The digits of a number from a place on. -/
def digits (bias place number : Nat) : Text :=
  let limit := threshold place bias
  if number < limit then [digitOf number]
  else
    digitOf (limit + (number - limit) % (36 - limit)) ::
      digits bias (place + 36) ((number - limit) / (36 - limit))
  termination_by number
  decreasing_by
    have := threshold_pos place bias
    exact Nat.lt_of_le_of_lt (Nat.div_le_self _ _) (by omega)

/-- A writer of numbers: the digits so far, the distance since the last number, and how many
characters are written. -/
structure Writing where
  written : Text
  distance : Nat
  bias : Nat
  count : Nat

/-- Passes one character on the way through the text for a code point. Places between smaller
characters count, and the code point itself is written. -/
def Writing.pass (code : Nat) (isFirst : Nat → Bool) (w : Writing) (c : Char) : Writing :=
  if c.toNat < code then { w with distance := w.distance + 1 }
  else if c.toNat = code then
    { written := w.written ++ digits w.bias 36 w.distance
      distance := 0
      bias := adapt w.distance (w.count + 1) (isFirst w.count)
      count := w.count + 1 }
  else w

/-- Goes through the text once for every code point, and counts the ways for those between. -/
def writeCodes (text : Text) (isFirst : Nat → Bool) (next : Nat) : List Nat → Writing → Writing
  | [], w => w
  | code :: rest, w =>
    let near := { w with distance := w.distance + (code - next) * (w.count + 1) }
    let behind := text.foldl (Writing.pass code isFirst) near
    writeCodes text isFirst (code + 1) rest { behind with distance := behind.distance + 1 }

/-- The written form of a text. -/
def encode (text : Text) : Text :=
  let known := text.filter fun c => c.toNat < firstCode
  let codes := ((text.map Char.toNat).filter (firstCode ≤ ·)).mergeSort.eraseDups
  let numbers := writeCodes text (· = known.length) firstCode codes
    ⟨[], 0, firstBias, known.length⟩
  known ++ (if known.isEmpty then [] else ['-']) ++ numbers.written

end LuaAssist.Domain.Punycode

import LuaAssist.Text.Measure
import LuaAssist.Text.MarkTables

/-!
# Composed text

Text in which no character can be put together from a character and the marks behind it.
Every character is taken apart, marks are brought into the order of their classes, and the
pieces are put together from the left. Texts that look the same become the same.
-/

namespace LuaAssist.Text

/-- The class in which a mark combines. A character that starts a group has class zero. -/
def combiningClass (c : Char) : Nat :=
  match MarkTables.classes.find? fun (first, last, _) => first ≤ c.toNat && c.toNat ≤ last with
  | some (_, _, number) => number
  | none => 0

/-- A mark, which belongs to the character before it. -/
def isMark (c : Char) : Bool :=
  MarkTables.nonspacing.contains c.toNat || MarkTables.spacing.contains c.toNat

/-! ## Syllables of Hangul

A syllable is made of a leading consonant, a vowel and possibly a trailing consonant, and its
code point can be computed from theirs. -/

/-- The first syllable. -/
def hangulStart : Nat := 0xAC00

/-- The number of syllables. -/
def hangulCount : Nat := 19 * 21 * 28

/-- The pieces of a syllable. -/
def hangulPieces? (c : Char) : Option Text :=
  let index := c.toNat - hangulStart
  if c.toNat < hangulStart || hangulCount ≤ index then none
  else
    let leading := Char.ofNat (0x1100 + index / 588)
    let vowel := Char.ofNat (0x1161 + index % 588 / 28)
    let trailing := index % 28
    some (leading :: vowel :: if trailing = 0 then [] else [Char.ofNat (0x11A7 + trailing)])

/-- The syllable of a consonant and a vowel, or of a syllable without a trailing consonant
and that consonant. -/
def hangulPair? (first second : Char) : Option Char :=
  let leading := first.toNat - 0x1100
  let vowel := second.toNat - 0x1161
  let syllable := first.toNat - hangulStart
  let trailing := second.toNat - 0x11A7
  if 0x1100 ≤ first.toNat && leading < 19 && 0x1161 ≤ second.toNat && vowel < 21 then
    some (Char.ofNat (hangulStart + (leading * 21 + vowel) * 28))
  else if hangulStart ≤ first.toNat && syllable < hangulCount && syllable % 28 = 0 &&
      0x11A7 < second.toNat && trailing < 28 then
    some (Char.ofNat (first.toNat + trailing))
  else none

/-! ## Taking apart and putting together -/

/-- The two pieces of a character. -/
def pieces? (c : Char) : Option (Char × Char) :=
  (MarkTables.pairs.find? fun (whole, _, _) => whole = c.toNat).map fun (_, first, second) =>
    (Char.ofNat first, Char.ofNat second)

/-- The character that two pieces make. -/
def pair? (first second : Char) : Option Char :=
  match hangulPair? first second with
  | some syllable => some syllable
  | none =>
    (MarkTables.pairs.find? fun (_, a, b) => a = first.toNat && b = second.toNat).map
      fun (whole, _, _) => Char.ofNat whole

/-- Takes every character apart once. -/
def split (text : Text) : Text :=
  text.flatMap fun c =>
    match hangulPieces? c, pieces? c with
    | some pieces, _ => pieces
    | none, some (first, second) => [first, second]
    | none, none => [c]

/-- Takes every character apart; three times are enough for each. -/
def decompose (text : Text) : Text := split (split (split text))

/-- Puts a mark in front of the marks of its class and of later ones. -/
def insertMark (c : Char) : Text → Text
  | [] => [c]
  | d :: rest =>
    if combiningClass c ≠ 0 && combiningClass d ≠ 0 && combiningClass d < combiningClass c then
      d :: insertMark c rest
    else c :: d :: rest

/-- Brings the marks of every group into the order of their classes. -/
def orderMarks : Text → Text
  | [] => []
  | c :: rest => insertMark c (orderMarks rest)

/-- Nothing between the start of a group and the next character keeps the two apart: a mark
does if it is of the same class or of a later one. -/
def reaches (marks : Text) (c : Char) : Bool :=
  match marks.getLast? with
  | none => true
  | some last => combiningClass last < combiningClass c

/-- Puts pieces together behind the start of a group and those of its marks that stay. -/
def composeFrom (start : Char) (marks : Text) : Text → Text
  | [] => start :: marks
  | c :: rest =>
    match if reaches marks c then pair? start c else none with
    | some whole => composeFrom whole marks rest
    | none =>
      if combiningClass c = 0 then start :: marks ++ composeFrom c [] rest
      else composeFrom start (marks ++ [c]) rest

/-- Puts pieces together; marks in front of the first group stay. -/
def composePieces : Text → Text
  | [] => []
  | c :: rest => if combiningClass c = 0 then composeFrom c [] rest else c :: composePieces rest

/-- The composed form of a text. -/
def compose (text : Text) : Text := composePieces (orderMarks (decompose text))

end LuaAssist.Text

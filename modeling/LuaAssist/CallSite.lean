import LuaAssist.TypedChain

/-!
# The call at the cursor

Behind an opening parenthesis or a comma the cursor is in the argument list of a call.
The call is found leftwards, where a bracket opens that is not closed before the cursor;
its argument is counted rightwards from there, past literals and nested brackets.
-/

namespace LuaAssist

/-- How many brackets of each kind are open; below zero, more are closed. -/
structure Brackets where
  parens : Int
  squares : Int
  braces : Int
  deriving DecidableEq, Repr

namespace Brackets

/-- The count after one more character. -/
def after (count : Brackets) (c : Char) : Brackets :=
  if c = '(' then { count with parens := count.parens + 1 }
  else if c = ')' then { count with parens := count.parens - 1 }
  else if c = '[' then { count with squares := count.squares + 1 }
  else if c = ']' then { count with squares := count.squares - 1 }
  else if c = '\x7b' then { count with braces := count.braces + 1 }
  else if c = '\x7d' then { count with braces := count.braces - 1 }
  else count

/-- Everything that is opened is closed. -/
def none : Brackets := ⟨0, 0, 0⟩

/-- One parenthesis is open. -/
def oneParen : Brackets := ⟨1, 0, 0⟩

end Brackets

/-- A call whose argument list contains the cursor. -/
structure CallSite where
  /-- The last name of the called function. -/
  callee : Text
  /-- The offset of its first character. -/
  start : Nat
  /-- The offset of the parenthesis that opens the arguments. -/
  openOffset : Nat
  deriving DecidableEq, Repr

namespace CallSite

/-- Goes left until one parenthesis more is opened than closed, and nothing else: the text
before that place. -/
def beforeOpen? (count : Brackets) : Text → Option Text
  | [] => none
  | c :: rest =>
    if count.after c = .oneParen then some rest else beforeOpen? (count.after c) rest

/-- The words of the chain that ends a reversed text, the nearest first. The chain stops
where two words follow each other without a separator, which the second one shows. -/
def chainWords (afterWord : Bool) (left : Text) : List Text :=
  let run := left.takeWhile Text.isIdentifierPart
  match _h : left.drop run.length with
  | [] => if run.isEmpty then [] else [run.reverse]
  | sign :: rest =>
    let blank := Text.isBlank sign
    if !blank && sign ≠ '.' && sign ≠ ':' then [run.reverse]
    else if !run.isEmpty then
      if afterWord then [run.reverse] else run.reverse :: chainWords blank rest
    else if blank then chainWords afterWord rest
    else if afterWord then chainWords false rest
    else []
  termination_by left.length
  decreasing_by
    all_goals
      have hle := congrArg List.length _h
      simp only [List.length_drop, List.length_cons] at hle
      omega

/-- The word `function`, which no call is named. -/
def functionWord : Text := "function".toList

/-- The call whose arguments an offset is in, if it directly follows a parenthesis or a
comma. Function headers are no calls. -/
def find? (text : Text) (offset : Nat) : Option CallSite := do
  let left := Text.trimStart (TypedChain.leftOf text offset)
  if left.head? ≠ some '(' && left.head? ≠ some ',' then none
  else
    let before ← beforeOpen? .none left
    let words := chainWords false before
    let callee ← words.head?
    let first ← words.getLast?
    if callee.isEmpty || callee = functionWord || first = functionWord then none
    else
      let start := (Text.trimStart before).dropWhile Text.isIdentifierPart
      some ⟨callee, start.length, before.length⟩

/-- What is read of an argument list. -/
structure Reading where
  count : Brackets
  /-- The quote that ends the literal in which the reading is. -/
  quote : Option Char
  /-- The next character of the literal does not end it. -/
  escaped : Bool
  /-- The commas so far that separate arguments. -/
  commas : Nat
  deriving DecidableEq, Repr

/-- The state before the opening parenthesis. -/
def Reading.start : Reading := ⟨.none, none, false, 0⟩

/-- The reading after one more character. -/
def Reading.step (r : Reading) (c : Char) : Reading :=
  match r.quote with
  | some quote =>
    if r.escaped then { r with escaped := false }
    else if c = '\\' then { r with escaped := true }
    else if c = quote then { r with quote := none }
    else r
  | none =>
    if c = '"' || c = '\'' then { r with quote := some c }
    else if c = ',' && r.count = .oneParen then { r with commas := r.commas + 1 }
    else { r with count := r.count.after c }

/-- The index of the argument at an offset, counted from a parenthesis on. Inside a nested
bracket there is none. -/
def activeArgument? (text : Text) (openOffset offset : Nat) : Option Nat :=
  let reading := ((text.take offset).drop openOffset).foldl Reading.step .start
  if reading.count = .oneParen then some reading.commas else none

end CallSite

end LuaAssist

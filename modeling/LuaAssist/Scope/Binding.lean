import LuaAssist.Scope.Constructor

/-!
# Bindings

Statements that give a name to something are recognised by their words: `local`
declarations, assignments to chains, function headers with their parameters, and the
variables of loops. A value adds what is known about it: the members of a table
constructor, or the chain of which it is an alias.
-/

namespace LuaAssist

/-- A value, as far as it tells about members. -/
structure Value where
  members : List Chain
  /-- The chain whose table the value shares. -/
  target : Option Chain
  deriving DecidableEq, Repr

/-- A chain that is given a value. -/
structure Binding where
  path : Chain
  value : Value
  deriving DecidableEq, Repr

namespace Value

/-- A value about which nothing is known. -/
def unknown : Value := ⟨[], none⟩

end Value

namespace Binding

/-- A chain bound to a value about which nothing is known. -/
def plain (path : Chain) : Binding := ⟨path, .unknown⟩

/-- The rest of a chain: separators with names behind them. A colon counts only where a
method may be named. -/
def chainTail (methods : Bool) : List Word → Chain × List Word
  | sign :: word :: rest =>
    if (sign.isSign "." || (methods && sign.isSign ":")) && word.isName then
      let (names, after) := chainTail methods rest
      (word.text :: names, after)
    else ([], sign :: word :: rest)
  | words => ([], words)

/-- A chain in front of some words, and the words behind it. -/
def chain? (methods : Bool) : List Word → Option (Chain × List Word)
  | [] => none
  | word :: rest =>
    if word.isName then
      let (names, after) := chainTail methods rest
      some (word.text :: names, after)
    else none

/-! ## Values -/

/-- The words behind the brace that closes as many constructors as are open. -/
def afterTable (openBraces : Nat) : List Word → List Word
  | [] => []
  | word :: rest =>
    if word.isSign "\x7b" then afterTable (openBraces + 1) rest
    else if word.isSign "\x7d" then
      if openBraces ≤ 1 then rest else afterTable (openBraces - 1) rest
    else afterTable openBraces rest

/-- A word that can be the last of a value. -/
def endsValue (word : Word) : Bool :=
  word.kind = .number || word.kind = .string || word.isName ||
    ["nil".toList, "true".toList, "false".toList, "...".toList].contains word.text ||
    word.isSign ")" || word.isSign "]" || word.isSign "\x7d"

/-- The word behind a value ends the expression, so that the value is all of it. -/
def endsExpression : Option Word → Bool
  | none => true
  | some word =>
    if word.kind = .keyword then word.text ≠ "and".toList && word.text ≠ "or".toList
    else word.isName || word.isSign "," || word.isSign ";" || word.isSign ")" ||
      word.isSign "\x7d"

/-- The keywords that an expression goes on with. -/
def expressionKeywords : List Text :=
  ["and", "or", "not", "nil", "true", "false"].map String.toList

/-- A word that cannot go on with an expression after `previous`: a separator, a keyword that
no expression contains, or a name or number behind a value. -/
def stopsExpression (previous word : Word) : Bool :=
  word.isSign "," || word.isSign ";" ||
    (word.kind = .keyword && !expressionKeywords.contains word.text) ||
    ((word.isName || word.kind = .number) && endsValue previous)

/-- The words behind an expression. Inside of brackets nothing ends it but the bracket that
closes the last one too many. -/
def afterExpression (previous : Option Word) (depth : Nat) : List Word → List Word
  | [] => []
  | word :: rest =>
    if word.isSign "(" || word.isSign "[" || word.isSign "\x7b" then
      afterExpression (some word) (depth + 1) rest
    else if word.isSign ")" || word.isSign "]" || word.isSign "\x7d" then
      if depth = 0 then word :: rest else afterExpression (some word) (depth - 1) rest
    else if depth = 0 && previous.any (stopsExpression · word) then word :: rest
    else afterExpression (some word) depth rest

/-- The value in front of some words, and the words behind it. -/
def readValue (words : List Word) : Value × List Word :=
  let table := words.head?.any (·.isSign "\x7b") && endsExpression (afterTable 0 words).head?
  if table then
    let (members, after) := Constructor.read words.tail
    (⟨members.chains, none⟩, after)
  else
    match (chain? false words).filter fun (_, after) => endsExpression after.head? with
    | some (chain, after) => (⟨[], some chain⟩, after)
    | none => (.unknown, afterExpression none 0 words)

/-- Up to `count` values with commas between them. -/
def values : Nat → List Word → List Value
  | 0, _ => []
  | _, [] => []
  | count + 1, words =>
    let (value, after) := readValue words
    value :: match after with
      | [] => []
      | sign :: rest => if sign.isSign "," then values count rest else []

/-- Gives the values to the chains in turn; a chain without a value is bound all the same. -/
def assign : List Chain → List Value → List Binding
  | [], _ => []
  | path :: paths, [] => plain path :: assign paths []
  | path :: paths, value :: rest => ⟨path, value⟩ :: assign paths rest

/-! ## Statements -/

/-- The words behind an attribute in angle brackets, if one comes first. -/
def skipAttribute (words : List Word) : List Word :=
  match words with
  | less :: _ :: greater :: rest =>
    if less.isSign "<" && greater.isSign ">" then rest else words
  | _ => words

/-- Skipping an attribute adds no word. -/
theorem length_skipAttribute_le (words : List Word) :
    (skipAttribute words).length ≤ words.length := by
  unfold skipAttribute
  split
  · split
    · simp only [List.length_cons]
      omega
    · exact Nat.le_refl _
  · exact Nat.le_refl _

/-- The names of a declaration, each perhaps with an attribute, and the words behind them. -/
def localNames (words : List Word) : List Text × List Word :=
  match words with
  | [] => ([], [])
  | word :: rest =>
    if word.isName then
      match _h : skipAttribute rest with
      | [] => ([word.text], [])
      | sign :: more =>
        if sign.isSign "," then
          let (names, after) := localNames more
          (word.text :: names, after)
        else ([word.text], sign :: more)
    else ([], word :: rest)
  termination_by words.length
  decreasing_by
    have hle := length_skipAttribute_le rest
    rw [_h] at hle
    simp only [List.length_cons] at hle ⊢
    omega

/-- The parameters up to the closing parenthesis. -/
def parameters : List Word → List Binding × List Word
  | [] => ([], [])
  | word :: rest =>
    if word.isSign ")" then ([], rest)
    else
      let (found, after) := parameters rest
      (if word.isName then plain [word.text] :: found else found, after)

/-- What the words behind `function` bind: the function's chain, if it has one, and its
parameters. -/
def header (words : List Word) : List Binding × List Word :=
  let (named, behind) := match chain? true words with
    | some (path, after) => ([plain path], after)
    | none => ([], words)
  match behind with
  | [] => (named, [])
  | sign :: rest =>
    if sign.isSign "(" then
      let (found, after) := parameters rest
      (named ++ found, after)
    else (named, sign :: rest)

/-- What the words behind `local` bind. The values are left among the words behind. -/
def declaration (words : List Word) : List Binding × List Word :=
  if words.head?.any (·.isKeyword "function") then header words.tail
  else
    let (names, behind) := localNames words
    let paths := names.map fun name => [name]
    match behind with
    | [] => (assign paths [], [])
    | sign :: rest =>
      if sign.isSign "=" then (assign paths (values names.length rest), rest)
      else (assign paths [], sign :: rest)

/-- What the words behind `for` bind: every name up to `in`, `=` or `do`. -/
def loop : List Word → List Binding × List Word
  | [] => ([], [])
  | word :: rest =>
    if word.isKeyword "in" || word.isSign "=" || word.isKeyword "do" then ([], word :: rest)
    else
      let (found, after) := loop rest
      (if word.isName then plain [word.text] :: found else found, after)

/-- Chains with commas between them up to an equals sign, and the words behind it. Every
step goes past a chain, so there are no more steps than words. -/
def targets? : Nat → List Word → Option (List Chain × List Word)
  | 0, _ => none
  | steps + 1, words => do
    let (path, after) ← chain? false words
    match after with
    | [] => none
    | sign :: rest =>
      if sign.isSign "=" then some ([path], rest)
      else if sign.isSign "," then
        let (paths, behind) ← targets? steps rest
        some (path :: paths, behind)
      else none

/-- What an assignment binds that begins with these words. -/
def assignment? (words : List Word) : Option (List Binding × List Word) := do
  let (paths, rest) ← targets? words.length words
  some (assign paths (values paths.length rest), rest)

/-- What the statement that begins with a word binds, and the words behind it. -/
def statement (previous : Option Word) (word : Word) (rest : List Word) :
    List Binding × List Word :=
  if word.isKeyword "local" then declaration rest
  else if word.isKeyword "function" then header rest
  else if word.isKeyword "for" then loop rest
  else if word.isName && !previous.any (fun p => p.isSign "." || p.isSign ":") then
    (assignment? (word :: rest)).getD ([], rest)
  else ([], rest)

/-- The bindings of some words behind `previous`, in order. Between braces there are none:
fields belong to their constructor. -/
def collectFrom (braces : Nat) (previous : Option Word) : List Word → List Binding
  | [] => []
  | word :: rest =>
    if word.isSign "\x7b" then collectFrom (braces + 1) (some word) rest
    else if word.isSign "\x7d" then collectFrom (braces - 1) (some word) rest
    else if 0 < braces then collectFrom braces (some word) rest
    else
      let (found, after) := statement previous word rest
      let more := rest.length - after.length
      found ++ collectFrom braces ((word :: rest.take more).getLast?) (rest.drop more)
  termination_by words => words.length
  decreasing_by all_goals simp only [List.length_drop, List.length_cons]; omega

/-- The bindings of some words, in order. -/
def collect (words : List Word) : List Binding := collectFrom 0 none words

end Binding

end LuaAssist

import LuaAssist.Signature

/-!
# Required modules

A `require` with a literal module name refers to another file, and a line that assigns
`package.path` says where to look for one. Both are found line by line, outside of
comments.
-/

namespace LuaAssist

/-- A module name in a `require`. -/
structure Reference where
  name : Text
  /-- The line, counted from zero. -/
  line : Nat
  /-- The byte of the line at which the name starts. -/
  column : Nat
  deriving DecidableEq, Repr

/-- What a file says about the files it needs. -/
@[ext] structure Declarations where
  references : List Reference
  /-- The search patterns, each with one placeholder for the module name. -/
  patterns : List Text
  deriving DecidableEq, Repr

namespace Require

/-- The two quotes of a literal. -/
def isQuote (c : Char) : Bool := c = '"' || c = '\''

/-- A literal whose opening quote is the first character: its content and what follows its
closing quote. -/
def literal? : Text → Option (Text × Text)
  | [] => none
  | quote :: rest =>
    if isQuote quote then
      let content := rest.takeWhile (· ≠ quote)
      match rest.drop content.length with
      | _ :: after => some (content, after)
      | [] => none
    else none

/-- All literals of a text. -/
def literals (text : Text) : List Text :=
  match text with
  | [] => []
  | c :: rest =>
    match literal? (c :: rest) with
    | some (content, _) => content :: literals (rest.drop (content.length + 1))
    | none => literals rest
  termination_by text.length
  decreasing_by all_goals simp only [List.length_drop, List.length_cons]; omega

/-- The characters between `require` and its literal: blanks with at most one opening
parenthesis among them. -/
def gap (behind : Text) : Nat :=
  let blanks := behind.takeWhile Text.isBlank
  match behind.drop blanks.length with
  | '(' :: rest => blanks.length + 1 + (rest.takeWhile Text.isBlank).length
  | _ => blanks.length

/-- The word that refers to a module. -/
def word : Text := "require".toList

/-- A reference at the front of a text, which must stand behind `before?`: the characters up
to the name, and the name. -/
def call? (before? : Option Char) (text : Text) : Option (Nat × Text) :=
  if !before?.any Text.isWordPart && word.isPrefixOf text then
    let behind := text.drop word.length
    match literal? (behind.drop (gap behind)) with
    | some (name, _) => if name.isEmpty then none else some (word.length + gap behind + 1, name)
    | none => none
  else none

/-- The references of a text that starts at `offset`, each with the offset of its name. -/
def callsFrom (before? : Option Char) (offset : Nat) : Text → List (Nat × Text)
  | [] => []
  | c :: rest =>
    match call? before? (c :: rest) with
    | some (skipped, name) =>
      (offset + skipped, name) ::
        callsFrom none (offset + (skipped + name.length + 1)) (rest.drop (skipped + name.length))
    | none => callsFrom (some c) (offset + 1) rest
  termination_by text => text.length
  decreasing_by all_goals simp only [List.length_drop, List.length_cons]; omega

/-- The references of a line up to its first comment. -/
def ofLine (number : Nat) (line : Text) : List Reference :=
  let code := Signature.codeOf line
  ((callsFrom none 0 line).takeWhile fun (offset, _) => offset < code.length).map
    fun (offset, name) => ⟨name, number, Text.utf8Length (line.take offset)⟩

/-- Reads `sign` behind any blanks. -/
def afterSign? (sign text : Text) : Option Text :=
  let rest := Text.trimStart text
  if sign.isPrefixOf rest then some (rest.drop sign.length) else none

/-- What is assigned behind the word `package`, if `.path =` follows it. -/
def assigned? (behind : Text) : Option Text := do
  afterSign? ['='] (← afterSign? "path".toList (← afterSign? ['.'] behind))

/-- The text that a line assigns to `package.path`, up to its first comment. -/
def pathAssignment (line : Text) : Text :=
  let code := Signature.codeOf line
  match Text.cutAtWord? "package".toList (fun behind => (assigned? behind).isSome) none line with
  | none => []
  | some (before, behind) =>
    if code.length ≤ before.length then []
    else
      let start := line.length - ((assigned? behind).getD []).length
      (code.drop start)

/-- The entries of an assigned path, in the order in which they are written. -/
def entries (assigned : Text) : List Text :=
  (literals assigned).flatMap fun content => (Text.splitOn (· = ';') content).map Text.trim

/-- Adds an entry that has exactly one placeholder and is not known yet. -/
def addPattern (placeholder : Char) (patterns : List Text) (entry : Text) : List Text :=
  if entry.count placeholder = 1 && !patterns.contains entry then patterns ++ [entry]
  else patterns

/-- The references on numbered lines. -/
def referencesFrom (number : Nat) : List Text → List Reference
  | [] => []
  | line :: rest => ofLine number line ++ referencesFrom (number + 1) rest

/-- The references and the search patterns of a text. -/
def declarations (placeholder : Char) (text : Text) : Declarations where
  references := referencesFrom 0 (Text.lines text)
  patterns :=
    ((Text.lines text).flatMap fun line => entries (pathAssignment line)).foldl
      (addPattern placeholder) []

end Require

end LuaAssist

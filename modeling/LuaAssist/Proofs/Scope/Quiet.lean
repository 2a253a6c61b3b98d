import LuaAssist.Proofs.Scope.Values

/-!
# Values bind nothing

The words of a value are gone through once more as if they were statements. None of them is
taken for one: a chain in a value is not followed by an equals sign, whatever the value is in.
-/

namespace LuaAssist

open Binding
open Word (sign keyword)

namespace Binding

variable {previous : Option Word} {word : Word} {rest : List Word}

/-- A separator after which a name is reached from the one before. -/
def isAccessor (word : Word) : Bool := word.isSign "." || word.isSign ":"

/-- A word that begins no statement. -/
theorem collectFrom_skip (hopen : word.isSign "\x7b" = false) (hclose : word.isSign "\x7d" = false)
    (hstatement : statement previous word rest = ([], rest)) :
    collectFrom 0 previous (word :: rest) = collectFrom 0 (some word) rest := by
  have hfound : statement previous word ([] ++ rest) = ([], rest) := hstatement
  exact collectFrom_statement hopen hclose hfound

/-- A word that is neither a name nor a keyword that binds. -/
theorem statement_of_other (hname : word.isName = false)
    (hkeyword : ∀ text ∈ ["local", "function", "for"], word.isKeyword text = false) :
    statement previous word rest = ([], rest) := by
  simp only [List.forall_mem_cons] at hkeyword
  simp [statement, hname, hkeyword]

/-- A sign that is no brace begins no statement. -/
theorem collectFrom_sign {text : String} (htext : text ≠ "\x7b" ∧ text ≠ "\x7d") :
    collectFrom 0 previous (sign text :: rest) = collectFrom 0 (some (sign text)) rest :=
  collectFrom_skip (by simpa using htext.1) (by simpa using htext.2)
    (statement_of_other (by simp) (by simp))

/-- What is in front matters only if it is a separator of chains. -/
theorem collectFrom_previous (hprevious : previous.any isAccessor = false) (words : List Word) :
    collectFrom 0 previous words = collect words := by
  have hnone : ∀ word rest, statement previous word rest = statement none word rest := by
    intro word rest
    have hsame : previous.any (fun p => p.isSign "." || p.isSign ":") = false := hprevious
    simp [statement, hsame]
  cases words with
  | nil => simp [collect, collectFrom]
  | cons word rest =>
    rw [collect, collectFrom.eq_def, collectFrom.eq_def 0 none]
    simp only [hnone]

/-- A name behind which no assignment goes on, or which is reached from the one before. -/
theorem statement_of_name (hkeyword : ∀ text, word.isKeyword text = false)
    (hquiet : (∀ steps, targets? steps (word :: rest) = none) ∨ previous.any isAccessor = true) :
    statement previous word rest = ([], rest) := by
  rcases hquiet with htargets | hprevious
  · simp [statement, hkeyword, assignment?, htargets]
  · have hsame : previous.any (fun p => p.isSign "." || p.isSign ":") = true := hprevious
    simp [statement, hkeyword, hsame]

end Binding

namespace Program

variable {after : List Word}

/-- No chain and no list of targets goes on with these words. -/
def Stops (after : List Word) : Prop :=
  ∀ word ∈ after.head?, word.isSign "." = false ∧ word.isSign ":" = false ∧
    word.isSign "," = false ∧ word.isSign "=" = false

/-- Nothing goes on behind a closing parenthesis. -/
theorem stops_paren (rest : List Word) : Stops (sign ")" :: rest) := by
  simp [Stops]

/-- Where a statement begins, an expression has stopped. -/
theorem Begins.stops (hafter : Begins after) : Stops after := by
  intro word hword
  have hsign := hafter.isSign_eq word hword
  exact ⟨hsign _ (by decide), hsign _ (by decide), hsign _ (by decide), hsign _ (by decide)⟩

/-- The step over a chain on the way to an equals sign. -/
theorem targets?_path (steps : Nat) (path : Names)
    (hafter : ∀ word ∈ after.head?, word.isSign "." = false ∧ word.isSign ":" = false) :
    targets? (steps + 1) (path.words "." ++ after) =
      match after with
      | [] => none
      | word :: rest =>
        if word.isSign "=" then some ([path.texts], rest)
        else if word.isSign "," then
          (targets? steps rest).map fun found => (path.texts :: found.1, found.2)
        else none := by
  rw [targets?, chain?_path, chainTail_of_head false hafter]
  cases after with
  | nil => rfl
  | cons word rest =>
    cases hequals : word.isSign "=" <;> cases hcomma : word.isSign "," <;>
      cases htargets : targets? steps rest <;> simp [hequals, hcomma, htargets]

/-- Words that do not begin with a name are no targets. -/
theorem targets?_of_other {word : Word} (hname : word.isName = false) (steps : Nat)
    (rest : List Word) : targets? steps (word :: rest) = none := by
  cases steps <;> simp [targets?, chain?, hname]

/-- A call is no target. -/
theorem targets?_call (steps : Nat) (path : Names) (arguments : Arguments) (after : List Word) :
    targets? steps (path.words "." ++ (arguments.words ++ after)) = none := by
  cases steps with
  | zero => rfl
  | succ steps =>
    rw [arguments.words_eq, List.cons_append, targets?_path steps path (by simp)]
    simp

/-- Values are no targets, as no equals sign follows them. -/
theorem targets?_words (values : Expressions) (hafter : Stops after) (steps : Nat) :
    targets? steps (values.words ++ after) = none := by
  have hvalue : ∀ (value : Expression) (steps : Nat) (after : List Word),
      (∀ path, value = .chain path → targets? steps (path.words "." ++ after) = none) →
        targets? steps (value.words ++ after) = none := by
    intro value steps after hchain
    cases value with
    | number numeral => exact targets?_of_other numeral.isName_word _ _
    | text literal => exact targets?_of_other literal.isName_word _ _
    | constant value => cases value <;> exact targets?_of_other (Word.isName_keyword _) _ _
    | chain path => exact hchain path rfl
    | call path arguments =>
      rw [Expression.words, List.append_assoc]
      exact targets?_call _ _ _ _
    | table fields => exact targets?_of_other (Word.isName_sign _) _ _
  induction steps generalizing values with
  | zero => rfl
  | succ steps ih =>
    cases values with
    | last value =>
      refine hvalue value _ _ fun path _ => ?_
      have hends : ∀ word ∈ after.head?, word.isSign "." = false ∧ word.isSign ":" = false :=
        fun word hword => ⟨(hafter word hword).1, (hafter word hword).2.1⟩
      rw [targets?_path steps path hends]
      cases after with
      | nil => rfl
      | cons word rest => simp [hafter word rfl]
    | more value rest =>
      rw [Expressions.words, List.append_assoc, List.cons_append]
      refine hvalue value _ _ fun path _ => ?_
      rw [targets?_path steps path (by simp)]
      simp [ih]

/-! ## The walk over values -/

/-- The names behind the first of a chain bind nothing. -/
theorem collectFrom_names (more : List Name) (name : Name) (after : List Word) :
    collectFrom 0 (some name.word)
      ((more.flatMap fun name => [sign ".", name.word]) ++ after) = collect after := by
  induction more generalizing name with
  | nil => exact collectFrom_previous (by simp [isAccessor]) after
  | cons next more ih =>
    have hpoint : (some (sign ".")).any isAccessor = true := by simp [isAccessor]
    rw [List.flatMap_cons, List.append_assoc, List.cons_append, List.singleton_append,
      collectFrom_sign (by decide),
      collectFrom_skip (by simp) (by simp) (statement_of_name (by simp) (Or.inr hpoint)), ih]

/-- A chain binds nothing unless it is a target. -/
theorem collectFrom_path (previous : Option Word) (path : Names)
    (htargets : ∀ steps, targets? steps (path.words "." ++ after) = none) :
    collectFrom 0 previous (path.words "." ++ after) = collect after := by
  rw [Names.words, List.cons_append] at htargets ⊢
  rw [collectFrom_skip (by simp) (by simp) (statement_of_name (by simp) (Or.inl htargets)),
    collectFrom_names]

/-- A word that stands for a value binds nothing. -/
theorem collectFrom_single (previous : Option Word) {word : Word} (hname : word.isName = false)
    (hsign : ∀ text ∈ ["\x7b", "\x7d", ".", ":"], word.isSign text = false)
    (hkeyword : ∀ text ∈ ["local", "function", "for"], word.isKeyword text = false)
    (after : List Word) : collectFrom 0 previous (word :: after) = collect after := by
  simp only [List.forall_mem_cons] at hsign
  rw [collectFrom_skip hsign.1 hsign.2.1 (statement_of_other hname hkeyword)]
  exact collectFrom_previous (by simp [isAccessor, hsign]) after

mutual

/-- The words of a value bind nothing. -/
theorem Expression.collect_words : ∀ (value : Expression) (previous : Option Word)
    {after : List Word}, (∀ steps, targets? steps (value.words ++ after) = none) →
    collectFrom 0 previous (value.words ++ after) = collect after
  | .number numeral, _, _, _ => collectFrom_single _ (by simp) (by simp) (by simp) _
  | .text literal, _, _, _ => collectFrom_single _ (by simp) (by simp) (by simp) _
  | .constant value, _, _, _ => by
    cases value <;>
      exact collectFrom_single _ (by simp [Constant.word]) (by simp [Constant.word])
        (by simp [Constant.word]) _
  | .chain path, _, _, htargets => collectFrom_path _ path htargets
  | .call path arguments, _, after, _ => by
    rw [Expression.words, List.append_assoc,
      collectFrom_path _ path fun steps => targets?_call steps path arguments after, collect,
      arguments.collect_words]
  | .table fields, previous, after, _ => by
    rw [Expression.words, List.cons_append, List.append_assoc, List.singleton_append,
      collectFrom.eq_def]
    simp only [Word.isSign_sign, decide_true, if_true]
    rw [fields.balanced.collectFrom_append, collectFrom.eq_def]
    simp only [Word.isSign_sign, decide_true, if_true, String.reduceEq, decide_false,
      Bool.false_eq_true, if_false]
    exact collectFrom_previous (by simp [isAccessor]) after

/-- Expressions in a list enter nothing. -/
theorem Expressions.collect_words : ∀ (values : Expressions) (previous : Option Word)
    {after : List Word}, Stops after →
    collectFrom 0 previous (values.words ++ after) = collect after
  | .last value, previous, _, hafter =>
    value.collect_words previous fun steps => targets?_words (.last value) hafter steps
  | .more value rest, previous, after, hafter => by
    have htargets := targets?_words (.more value rest) hafter
    rw [Expressions.words, List.append_assoc, List.cons_append] at htargets ⊢
    rw [value.collect_words previous htargets, collect,
      collectFrom_sign (by decide), rest.collect_words _ hafter]

/-- Nor do the arguments of a call. -/
theorem Arguments.collect_words : ∀ (arguments : Arguments) (previous : Option Word)
    {after : List Word}, collectFrom 0 previous (arguments.words ++ after) = collect after
  | .none, previous, after => by
    rw [Arguments.words, List.cons_append, List.singleton_append,
      collectFrom_sign (by decide), collectFrom_single _ (by simp) (by simp) (by simp)]
  | .some values, previous, after => by
    rw [Arguments.words, List.cons_append, List.append_assoc, List.singleton_append,
      collectFrom_sign (by decide), values.collect_words _ (stops_paren after), collect,
      collectFrom_single _ (by simp) (by simp) (by simp)]

end

end Program

end LuaAssist

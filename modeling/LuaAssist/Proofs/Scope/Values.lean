import LuaAssist.Proofs.Scope.Balanced
import LuaAssist.Proofs.Scope.Fields

/-!
# Written values

What is read where an expression is written: its members if it is a table, its chain if it is
one, and otherwise nothing. Reading stops where the expression does, whether a comma follows or
the next statement.
-/

namespace LuaAssist

open Binding
open Word (sign keyword)

namespace Program

variable {after rest : List Word}

/-- Words that begin with a name or with a keyword that no expression contains, or none. -/
inductive Begins : List Word → Prop
  | nil : Begins []
  | name (name : Name) (rest : List Word) : Begins (name.word :: rest)
  | keyword {text : String} (htext : text ∈ ["local", "function", "for", "do", "end"])
      (rest : List Word) : Begins (keyword text :: rest)

/-- What follows an expression: a comma, or words that begin something else. -/
def Follows (after : List Word) : Prop := Begins after ∨ ∃ rest, after = sign "," :: rest

/-- A keyword that no expression contains ends one. -/
theorem endsExpression_keyword {text : String}
    (htext : text ∈ ["local", "function", "for", "do", "end"]) (last : Word) :
    endsExpression (some (keyword text)) = true ∧ stopsExpression last (keyword text) = true := by
  have hother : text.toList ∉ expressionKeywords := by
    simp only [List.mem_cons, List.not_mem_nil, or_false] at htext
    rcases htext with rfl | rfl | rfl | rfl | rfl <;> decide
  have hplain : text.toList ≠ "and".toList ∧ text.toList ≠ "or".toList :=
    ⟨fun heq => hother (heq ▸ by decide), fun heq => hother (heq ▸ by decide)⟩
  have hkind : (keyword text).kind = .keyword := rfl
  have hword : (keyword text).text = text.toList := rfl
  constructor
  · rw [endsExpression, if_pos hkind, hword]
    simp only [ne_eq, hplain, not_false_eq_true, decide_true, Bool.and_self]
  · simp only [stopsExpression, hkind, hword, List.contains_eq_mem, hother, decide_true,
      decide_false, Bool.not_false, Bool.and_self, Bool.or_true, Bool.true_or]

/-- Behind an expression it is over. -/
theorem Follows.endsExpression (hafter : Follows after) : endsExpression after.head? = true := by
  rcases hafter with (_ | ⟨name, rest⟩ | ⟨htext, rest⟩) | ⟨rest, rfl⟩
  · rfl
  · simp [Binding.endsExpression]
  · exact (endsExpression_keyword htext (keyword "end")).1
  · rfl

/-- Words that begin something do not begin with a sign. -/
theorem Begins.isSign_eq (hafter : Begins after) :
    ∀ word ∈ after.head?, ∀ text ∈ [",", "=", ".", ":", "<"], word.isSign text = false := by
  cases hafter with
  | nil => simp
  | name name rest => simp
  | keyword htext rest =>
    simp only [List.mem_cons, List.not_mem_nil, or_false] at htext
    rcases htext with rfl | rfl | rfl | rfl | rfl <;> simp

/-- No chain goes on behind an expression. -/
theorem Follows.head_eq (hafter : Follows after) :
    ∀ word ∈ after.head?, word.isSign "." = false ∧ word.isSign ":" = false := by
  rcases hafter with hbegins | ⟨rest, rfl⟩
  · intro word hword
    have hsign := hbegins.isSign_eq word hword
    exact ⟨hsign _ (by decide), hsign _ (by decide)⟩
  · simp

/-- Nothing of what follows a value is read as part of it. -/
theorem Follows.afterExpression_eq {last : Word} (hafter : Follows after)
    (hlast : endsValue last = true) : afterExpression (some last) 0 after = after := by
  rcases hafter with (_ | ⟨name, rest⟩ | ⟨htext, rest⟩) | ⟨rest, rfl⟩
  · rfl
  · simp [afterExpression, stopsExpression, hlast]
  · have hstops := (endsExpression_keyword htext last).2
    simp only [List.mem_cons, List.not_mem_nil, or_false] at htext
    rcases htext with rfl | rfl | rfl | rfl | rfl <;> simp [afterExpression, hstops]
  · simp [afterExpression, stopsExpression]

/-! ## Chains -/

/-- The names behind the first of a chain. -/
theorem chainTail_names (methods : Bool) (more : List Name) (after : List Word) :
    chainTail methods ((more.flatMap fun name => [sign ".", name.word]) ++ after) =
      (more.map Name.text ++ (chainTail methods after).1, (chainTail methods after).2) := by
  induction more with
  | nil => rfl
  | cons name more ih =>
    rw [List.flatMap_cons, List.append_assoc, List.cons_append, List.singleton_append, chainTail]
    simp [ih]
    rfl

/-- A chain is read name by name. -/
theorem chain?_path (methods : Bool) (path : Names) (after : List Word) :
    chain? methods (path.words "." ++ after) =
      some (path.texts ++ (chainTail methods after).1, (chainTail methods after).2) := by
  rw [Names.words, List.cons_append, chain?, if_pos path.first.isName_word, chainTail_names]
  rfl

/-- A chain does not go on where no sign for it stands. -/
theorem chainTail_of_head (methods : Bool)
    (hafter : ∀ word ∈ after.head?, word.isSign "." = false ∧ word.isSign ":" = false) :
    chainTail methods after = ([], after) := by
  rcases after with _ | ⟨word, _ | ⟨next, rest⟩⟩
  · simp [chainTail]
  · simp [chainTail]
  · simp [chainTail, hafter word rfl]

/-- The last name of a chain ends a value, and a parenthesis behind it opens a call. -/
theorem afterExpression_path {previous : Option Word}
    (hprevious : previous = none ∨ previous = some (sign ".")) (path : Names) (rest : List Word) :
    afterExpression previous 0 (path.words "." ++ sign "(" :: rest) =
      afterExpression none 1 rest := by
  have hpoint : ∀ word, stopsExpression word (sign ".") = false := by
    intro word
    simp [stopsExpression]
  have hgoes : ∀ previous, previous = none ∨ previous = some (sign ".") → ∀ name : Name,
      previous.any (stopsExpression · name.word) = false := by
    rintro previous (rfl | rfl) name
    · rfl
    · have hends : endsValue (sign ".") = false := by decide
      simp [stopsExpression, hends]
  obtain ⟨first, more⟩ := path
  induction more generalizing first previous with
  | nil =>
    simp [Names.words, afterExpression, hgoes previous hprevious,
      Balanced.afterExpression_inside (some _)]
  | cons name more ih =>
    rw [Names.words_cons, List.cons_append, List.cons_append]
    simp only [afterExpression, hgoes previous hprevious, hpoint, Option.any_some,
      Name.isSign_word, Word.isSign_sign, String.reduceEq, decide_false, Bool.or_self,
      Bool.false_eq_true, if_false, Bool.and_false]
    exact ih (Or.inr rfl) name

/-! ## Expressions -/

/-- A single word that is a value. -/
theorem readValue_single {word : Word} (hname : word.isName = false)
    (hsign : ∀ text ∈ ["(", "[", "\x7b", ")", "]", "\x7d"], word.isSign text = false)
    (hends : endsValue word = true) (hafter : Follows after) :
    readValue (word :: after) = (.unknown, after) := by
  simp only [List.forall_mem_cons] at hsign
  have hbehind := hafter.afterExpression_eq hends
  simp [readValue, chain?, hname, hsign, afterExpression, hbehind]

/-- What is read of a written expression, whatever follows it. -/
theorem readValue_words (value : Expression) (hafter : Follows after) :
    readValue (value.words ++ after) = (value.value, after) := by
  cases value with
  | number numeral =>
    exact readValue_single (by simp) (by simp) (by simp [endsValue, Numeral.word]) hafter
  | text literal =>
    exact readValue_single (by simp) (by simp) (by simp [endsValue, Literal.word]) hafter
  | constant value =>
    cases value <;>
      exact readValue_single (by simp [Constant.word]) (by simp [Constant.word])
        (by simp [endsValue, Constant.word, keyword]) hafter
  | chain path =>
    have hhead : (path.words "." ++ after).head?.any (Word.isSign · "\x7b") = false := by
      simp [Names.words]
    have htail := chainTail_of_head false hafter.head_eq
    simp only [Expression.words, readValue, hhead, chain?_path, htail, List.append_nil,
      Bool.false_and, Bool.false_eq_true, if_false, Option.filter_some, hafter.endsExpression,
      if_true]
    rfl
  | call path arguments =>
    have hwords : arguments.words ++ after =
        sign "(" :: (arguments.inner ++ sign ")" :: after) := by
      simp [arguments.words_eq]
    have hhead : ∀ words, (path.words "." ++ words).head?.any (Word.isSign · "\x7b") = false := by
      simp [Names.words]
    have htail : chainTail false (sign "(" :: (arguments.inner ++ sign ")" :: after)) =
        ([], sign "(" :: (arguments.inner ++ sign ")" :: after)) :=
      chainTail_of_head false (by simp)
    have hopens : endsExpression (some (sign "(")) = false := by decide
    have hbehind : afterExpression none 1 (arguments.inner ++ sign ")" :: after) = after := by
      rw [arguments.balanced_inner.afterExpression_append]
      have hparen : endsValue (sign ")") = true := by decide
      simpa [afterExpression] using hafter.afterExpression_eq hparen
    rw [Expression.words, List.append_assoc, hwords]
    simp only [readValue, hhead, chain?_path, htail, List.head?_cons, Bool.false_and,
      Bool.false_eq_true, if_false, Option.filter_some, hopens, afterExpression_path (Or.inl rfl),
      hbehind]
    rfl
  | table fields =>
    have htable : afterTable 0 (sign "\x7b" :: (fields.words ++ sign "\x7d" :: after)) = after := by
      rw [afterTable]
      simp [fields.balanced.afterTable_append]
      simp [afterTable]
    simp [Expression.words, readValue, htable, hafter.endsExpression, read_fields]
    rfl

/-- The first of some values, and the values behind a comma. -/
theorem values_succ (count : Nat) {words : List Word} (hne : words ≠ []) :
    values (count + 1) words = (readValue words).1 ::
      match (readValue words).2 with
      | [] => []
      | sign :: rest => if sign.isSign "," then values count rest else [] := by
  obtain ⟨word, rest, rfl⟩ := List.exists_cons_of_ne_nil hne
  exact values.eq_def (count + 1) (word :: rest)

/-- Values are read where they are written, as many as are asked for. -/
theorem values_words (written : Expressions) (count : Nat) (hafter : Begins after) :
    values count (written.words ++ after) = written.values.take count := by
  have hne : ∀ (value : Expression) (words : List Word), value.words ++ words ≠ [] := by
    intro value words hnil
    cases value <;> simp [Expression.words, Names.words] at hnil
  induction count generalizing written with
  | zero => simp [values]
  | succ count ih =>
    cases written with
    | last value =>
      rw [Expressions.words, values_succ count (hne _ _), readValue_words value (Or.inl hafter)]
      cases after with
      | nil => simp [Expressions.values]
      | cons word rest =>
        have hcomma : word.isSign "," = false := hafter.isSign_eq word rfl _ (by decide)
        simp [Expressions.values, hcomma]
    | more value rest =>
      rw [Expressions.words, List.append_assoc, List.cons_append, values_succ count (hne _ _),
        readValue_words value (Or.inr ⟨_, rfl⟩)]
      simp [Expressions.values, ih]

end Program

end LuaAssist

import LuaAssist.Proofs.Scope.Written

/-!
# Balanced words

Words in which every bracket is closed by one of its kind. Whoever counts brackets passes over
balanced words and is as deep behind them as in front. The words of a program are balanced.
-/

namespace LuaAssist

open Word (sign keyword)

/-- A word that opens or closes something. -/
def Word.isBracket (word : Word) : Bool :=
  ["(", ")", "[", "]", "\x7b", "\x7d"].any word.isSign

/-- Words in which every bracket is closed by one of its kind, and which stand. -/
inductive Balanced : List Word → Prop
  | nil : Balanced []
  | plain {word : Word} (hstands : word.Stands) (hbracket : word.isBracket = false) :
      Balanced [word]
  | append {words others : List Word} (hwords : Balanced words) (hothers : Balanced others) :
      Balanced (words ++ others)
  | enclosed {left right : String} {words : List Word}
      (hpair : (left, right) ∈ [("(", ")"), ("[", "]"), ("\x7b", "\x7d")])
      (hwords : Balanced words) : Balanced (sign left :: (words ++ [sign right]))

namespace Balanced

variable {words : List Word}

/-- Balanced words stand. -/
theorem stands (hwords : Balanced words) : ∀ word ∈ words, word.Stands := by
  induction hwords with
  | nil => nofun
  | plain hstands hbracket => simpa using hstands
  | append hwords hothers ihwords ihothers =>
    exact List.forall_mem_append.mpr ⟨ihwords, ihothers⟩
  | @enclosed left right words hpair hwords ih =>
    have hsigns : left ∈ Word.signs ∧ right ∈ Word.signs := by
      simp only [List.mem_cons, Prod.mk.injEq, List.not_mem_nil, or_false] at hpair
      rcases hpair with ⟨rfl, rfl⟩ | ⟨rfl, rfl⟩ | ⟨rfl, rfl⟩ <;> decide
    refine List.forall_mem_cons.mpr ⟨Word.stands_sign hsigns.1,
      List.forall_mem_append.mpr ⟨ih, ?_⟩⟩
    simpa using Word.stands_sign hsigns.2

/-! ## Passing over balanced words -/

/-- Inside of a constructor balanced words do not close it. -/
theorem afterTable_append (hwords : Balanced words) (openBraces : Nat) (after : List Word) :
    Binding.afterTable (openBraces + 1) (words ++ after) =
      Binding.afterTable (openBraces + 1) after := by
  induction hwords generalizing openBraces after with
  | nil => rfl
  | @plain word hstands hbracket =>
    simp only [Word.isBracket, List.any_cons, Bool.or_eq_false_iff] at hbracket
    simp [Binding.afterTable, hbracket]
  | append hwords hothers ihwords ihothers => rw [List.append_assoc, ihwords, ihothers]
  | @enclosed left right words hpair hwords ih =>
    simp only [List.mem_cons, Prod.mk.injEq, List.not_mem_nil, or_false] at hpair
    rcases hpair with ⟨rfl, rfl⟩ | ⟨rfl, rfl⟩ | ⟨rfl, rfl⟩ <;>
      simp [Binding.afterTable, ih]

/-- Inside of brackets it does not matter what stands in front. -/
theorem afterExpression_inside (previous : Option Word) (depth : Nat) (words : List Word) :
    Binding.afterExpression previous (depth + 1) words =
      Binding.afterExpression none (depth + 1) words := by
  cases words <;> simp [Binding.afterExpression]

/-- Inside of brackets balanced words do not end an expression. -/
theorem afterExpression_append (hwords : Balanced words) (previous : Option Word) (depth : Nat)
    (after : List Word) :
    Binding.afterExpression previous (depth + 1) (words ++ after) =
      Binding.afterExpression none (depth + 1) after := by
  induction hwords generalizing previous depth after with
  | nil => exact afterExpression_inside previous depth after
  | @plain word hstands hbracket =>
    simp only [Word.isBracket, List.any_cons, Bool.or_eq_false_iff] at hbracket
    simp [Binding.afterExpression, hbracket, afterExpression_inside (some word)]
  | append hwords hothers ihwords ihothers => rw [List.append_assoc, ihwords, ihothers]
  | @enclosed left right words hpair hwords ih =>
    simp only [List.mem_cons, Prod.mk.injEq, List.not_mem_nil, or_false] at hpair
    rcases hpair with ⟨rfl, rfl⟩ | ⟨rfl, rfl⟩ | ⟨rfl, rfl⟩ <;>
      simp [Binding.afterExpression, ih, afterExpression_inside (some _)]

/-- Between braces it does not matter what stands in front. -/
theorem collectFrom_inside (braces : Nat) (previous : Option Word) (words : List Word) :
    Binding.collectFrom (braces + 1) previous words =
      Binding.collectFrom (braces + 1) none words := by
  cases words <;> simp [Binding.collectFrom]

/-- Between braces balanced words bind nothing. -/
theorem collectFrom_append (hwords : Balanced words) (braces : Nat) (previous : Option Word)
    (after : List Word) :
    Binding.collectFrom (braces + 1) previous (words ++ after) =
      Binding.collectFrom (braces + 1) none after := by
  induction hwords generalizing braces previous after with
  | nil => exact collectFrom_inside braces previous after
  | @plain word hstands hbracket =>
    simp only [Word.isBracket, List.any_cons, Bool.or_eq_false_iff] at hbracket
    simp [Binding.collectFrom, hbracket, collectFrom_inside braces (some word)]
  | append hwords hothers ihwords ihothers => rw [List.append_assoc, ihwords, ihothers]
  | @enclosed left right words hpair hwords ih =>
    simp only [List.mem_cons, Prod.mk.injEq, List.not_mem_nil, or_false] at hpair
    rcases hpair with ⟨rfl, rfl⟩ | ⟨rfl, rfl⟩ | ⟨rfl, rfl⟩ <;>
      simp [Binding.collectFrom, ih, collectFrom_inside _ (some _)]

end Balanced

/-! ## Programs -/

namespace Program

/-- A name opens and closes nothing. -/
theorem Name.balanced (name : Name) : Balanced [name.word] :=
  .plain name.stands (by simp [Word.isBracket])

/-- Nor does a sign that is no bracket. -/
theorem balanced_sign {text : String} (htext : text ∈ ["=", ",", ";", ".", ":"]) :
    Balanced [sign text] := by
  simp only [List.mem_cons, List.not_mem_nil, or_false] at htext
  rcases htext with rfl | rfl | rfl | rfl | rfl <;>
    exact .plain (Word.stands_sign (by decide)) (by simp [Word.isBracket])

/-- Nor does a keyword. -/
theorem balanced_keyword {text : String} (htext : text.toList ∈ Words.reserved) :
    Balanced [keyword text] := by
  refine .plain (Word.stands_keyword htext) ?_
  simp only [Word.isBracket, List.any_eq_false, Word.isSign_keyword, decide_eq_true_eq]
  rintro bracket hbracket rfl
  simp only [List.mem_cons, List.not_mem_nil, or_false] at hbracket
  revert htext
  rcases hbracket with rfl | rfl | rfl | rfl | rfl | rfl <;> decide

/-- Nor do names between such signs. -/
theorem Names.balanced (names : Names) {separator : String}
    (hseparator : separator ∈ ["=", ",", ";", ".", ":"]) : Balanced (names.words separator) := by
  refine .append names.first.balanced ?_
  induction names.more with
  | nil => exact .nil
  | cons name more ih => exact .append (.append (balanced_sign hseparator) name.balanced) ih

/-- A literal is one word, whatever brackets stand in it. -/
theorem Literal.balanced (literal : Literal) : Balanced [literal.word] :=
  .plain literal.stands (by simp [Word.isBracket])

/-- A key closes the bracket that it opens. -/
theorem Key.balanced (key : Key) : Balanced key.words := by
  cases key with
  | positional => exact .nil
  | named name => exact .append name.balanced (balanced_sign (by decide))
  | quoted literal edges =>
    have hbrackets : Balanced (sign "[" :: ([literal.word] ++ [sign "]"])) :=
      .enclosed (by decide) literal.balanced
    exact .append hbrackets (balanced_sign (by decide))

/-- A separator of fields is no bracket. -/
theorem Separator.balanced (separator : Separator) : Balanced [separator.word] := by
  cases separator <;> exact balanced_sign (by decide)

mutual

/-- The words of an expression are balanced. -/
theorem Expression.balanced : ∀ value : Expression, Balanced value.words
  | .number numeral => .plain numeral.stands (by simp [Word.isBracket])
  | .text literal => literal.balanced
  | .constant constant => by
    cases constant <;> exact balanced_keyword (by decide)
  | .chain path => path.balanced (by decide)
  | .call path arguments => .append (path.balanced (by decide)) arguments.balanced
  | .table fields => .enclosed (by decide) fields.balanced

/-- Expressions in a list are balanced one by one. -/
theorem Expressions.balanced : ∀ values : Expressions, Balanced values.words
  | .last value => value.balanced
  | .more value rest =>
    .append value.balanced (.append (balanced_sign (by decide)) rest.balanced)

/-- Arguments close the parenthesis that they open. -/
theorem Arguments.balanced : ∀ arguments : Arguments, Balanced arguments.words
  | .none => .enclosed (by decide) .nil
  | .some values => .enclosed (by decide) values.balanced

/-- Fields are balanced in their keys and their values. -/
theorem Fields.balanced : ∀ fields : Fields, Balanced fields.words
  | .none => .nil
  | .last key value => .append key.balanced value.balanced
  | .more key value separator rest =>
    .append key.balanced (.append value.balanced (.append separator.balanced rest.balanced))

end

/-- So is what stands between the parentheses. -/
theorem Arguments.balanced_inner (arguments : Arguments) : Balanced arguments.inner := by
  cases arguments with
  | none => exact .nil
  | some values => exact values.balanced

/-- The words of a statement are balanced. -/
theorem Statement.balanced (statement : Statement) : Balanced statement.words := by
  cases statement with
  | declare names values =>
    have hnames : Balanced (keyword "local" :: names.words ",") :=
      .append (balanced_keyword (by decide)) (names.balanced (by decide))
    cases values with
    | none => exact hnames
    | some values =>
      exact .append hnames (.append (balanced_sign (by decide)) values.balanced)
  | assign first more values =>
    have hmore : Balanced (more.flatMap fun path => sign "," :: path.words ".") := by
      induction more with
      | nil => exact .nil
      | cons path more ih =>
        exact .append (.append (balanced_sign (by decide)) (path.balanced (by decide))) ih
    exact .append (.append (first.balanced (by decide)) hmore)
      (.append (balanced_sign (by decide)) values.balanced)
  | function isLocal path method parameters =>
    have hmethod : Balanced ((method.map fun name => [sign ":", name.word]).getD []) := by
      cases method with
      | none => exact .nil
      | some name => exact .append (balanced_sign (by decide)) name.balanced
    have hparameters : Balanced ((parameters.map (Names.words ",")).getD []) := by
      cases parameters with
      | none => exact .nil
      | some names => exact names.balanced (by decide)
    have hlocal : Balanced (if isLocal then [keyword "local"] else []) := by
      cases isLocal with
      | false => exact .nil
      | true => exact balanced_keyword (by decide)
    exact .append hlocal (.append (balanced_keyword (by decide)) (.append
      (path.balanced (by decide)) (.append hmethod (.enclosed (by decide) hparameters))))
  | forIn names source =>
    exact .append (balanced_keyword (by decide)) (.append (names.balanced (by decide))
      (.append (balanced_keyword (by decide)) (.append source.balanced
        (balanced_keyword (by decide)))))
  | forTo name start stop =>
    exact .append (balanced_keyword (by decide)) (.append name.balanced
      (.append (balanced_sign (by decide)) (.append (Expressions.balanced _)
        (balanced_keyword (by decide)))))
  | done => exact balanced_keyword (by decide)
  | call path arguments => exact .append (path.balanced (by decide)) arguments.balanced

/-- The words of a program are balanced. -/
theorem balanced_words (program : Program) : Balanced program.words := by
  induction program with
  | nil => exact .nil
  | cons statement program ih => exact .append statement.balanced ih

end Program

end LuaAssist

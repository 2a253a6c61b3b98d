import LuaAssist.Proofs.CallSite.Innermost
import LuaAssist.Require

/-!
# The argument at the cursor

Arguments are plain characters, literals and groups in brackets. Read from the parenthesis of the
call on, the reading is behind them as it was in front, but for the commas that stand in no literal
and in no group, and inside a bracket that is still open there is no argument.
-/

namespace LuaAssist.CallSite

open Brackets (Pair isBracket)
open Require (isQuote)

variable {c opening closing quote : Char} {inside : Text} {count : Brackets} {seen : Nat}

/-! ## Arguments as they are written -/

/-- What can stand between two quotes: a backslash hides the character behind it, and the quote
stands only behind a backslash. -/
inductive Enclosed (quote : Char) : Text → Prop where
  | nil : Enclosed quote []
  | plain {c : Char} {rest : Text} (hslash : c ≠ '\\') (hquote : c ≠ quote)
      (hrest : Enclosed quote rest) : Enclosed quote (c :: rest)
  | escaped {c : Char} {rest : Text} (hrest : Enclosed quote rest) :
      Enclosed quote ('\\' :: c :: rest)

/-- A literal in quotes of either kind. -/
structure Literal where
  quote : Char
  inside : Text
  isQuote_quote : isQuote quote = true
  enclosed : Enclosed quote inside

/-- The literal as it is written. -/
def Literal.text (literal : Literal) : Text := literal.quote :: (literal.inside ++ [literal.quote])

/-- What can stand in an argument list: characters that are no quotes and no brackets, literals, and
groups in brackets in which the same can stand. -/
inductive Arguments where
  | nil
  | plain (c : Char) (hquote : isQuote c = false) (hbracket : isBracket c = false)
      (rest : Arguments)
  | literal (quoted : Literal) (rest : Arguments)
  | group {opening closing : Char} (hpair : Pair opening closing) (inner rest : Arguments)

namespace Arguments

/-- Arguments as they are written. -/
def text : Arguments → Text
  | .nil => []
  | .plain c _ _ rest => c :: rest.text
  | .literal quoted rest => quoted.text ++ rest.text
  | @group opening closing _ inner rest => opening :: (inner.text ++ closing :: rest.text)

/-- The commas outside of literals and groups. -/
def commas : Arguments → Nat
  | .nil => 0
  | .plain c _ _ rest => (if c = ',' then 1 else 0) + rest.commas
  | .literal _ rest => rest.commas
  | .group _ _ rest => rest.commas

end Arguments

/-! ## Reading them -/

/-- A parenthesis is open, and perhaps more. -/
structure InArguments (count : Brackets) : Prop where
  parens_pos : 0 < count.parens
  squares_nonneg : 0 ≤ count.squares
  braces_nonneg : 0 ≤ count.braces

/-- Directly behind the parenthesis of a call. -/
theorem inArguments_oneParen : InArguments .oneParen := by
  constructor <;> decide

/-- Inside one bracket more there are no arguments of the call itself. -/
theorem InArguments.after_opening (hcount : InArguments count) (hpair : Pair opening closing) :
    InArguments (count.after opening) ∧ count.after opening ≠ .oneParen := by
  obtain ⟨hparens, hsquares, hbraces⟩ := hcount
  cases hpair <;>
  · refine ⟨⟨?_, ?_, ?_⟩, fun hone => ?_⟩
    all_goals simp [Brackets.after, Brackets.oneParen] at *
    all_goals omega

/-- A bracket that is closed is no longer counted. -/
theorem after_closing (hpair : Pair opening closing) (count : Brackets) :
    (count.after opening).after closing = count := by
  cases hpair <;> simp [Brackets.after]

/-- Other characters are not counted. -/
theorem after_of_isBracket_eq_false (hbracket : isBracket c = false) (count : Brackets) :
    count.after c = count := by
  simp only [isBracket, decide_eq_false_iff_not, List.mem_cons, List.not_mem_nil, or_false,
    not_or] at hbracket
  simp [Brackets.after, hbracket]

namespace Reading

/-- A bracket is counted. -/
theorem step_of_isBracket (hbracket : isBracket c = true) :
    step ⟨count, none, false, seen⟩ c = ⟨count.after c, none, false, seen⟩ := by
  simp only [isBracket, decide_eq_true_eq, List.mem_cons, List.not_mem_nil, or_false] at hbracket
  rcases hbracket with rfl | rfl | rfl | rfl | rfl | rfl <;> rfl

/-- Of the plain characters only a comma is counted, if no further bracket is open. -/
theorem step_plain (hquote : isQuote c = false) (hbracket : isBracket c = false) :
    step ⟨count, none, false, seen⟩ c =
      ⟨count, none, false, seen + if count = .oneParen ∧ c = ',' then 1 else 0⟩ := by
  have hafter := after_of_isBracket_eq_false hbracket count
  simp only [isQuote] at hquote
  by_cases hcomma : count = .oneParen ∧ c = ','
  · obtain ⟨rfl, rfl⟩ := hcomma
    rfl
  · have hother : (decide (c = ',') && decide (count = .oneParen)) = false := by
      rw [← Bool.not_eq_true, Bool.and_eq_true, decide_eq_true_eq, decide_eq_true_eq]
      exact fun hboth => hcomma hboth.symm
    simp [step, hquote, hother, hafter, hcomma]

/-- Between its quotes a literal is only read. -/
theorem foldl_step_enclosed (hinside : Enclosed quote inside) :
    inside.foldl step ⟨count, some quote, false, seen⟩ = ⟨count, some quote, false, seen⟩ := by
  induction hinside with
  | nil => rfl
  | plain hslash hquote _ ih => simpa [step, hslash, hquote] using ih
  | escaped _ ih => simpa [step] using ih

/-- A literal changes nothing. -/
theorem foldl_step_literal (literal : Literal) :
    literal.text.foldl step ⟨count, none, false, seen⟩ = ⟨count, none, false, seen⟩ := by
  obtain ⟨quote, inside, hquote, hinside⟩ := literal
  have hopen : step ⟨count, none, false, seen⟩ quote = ⟨count, some quote, false, seen⟩ := by
    simp only [isQuote] at hquote
    simp [step, hquote]
  have hslash : quote ≠ '\\' := by
    rintro rfl
    exact absurd hquote (by decide)
  rw [Literal.text, List.foldl_cons, hopen, List.foldl_append, foldl_step_enclosed hinside]
  simp [step, hslash]

/-- Arguments change the number of commas and nothing else, and inside a further bracket not even
that. -/
theorem foldl_step_arguments (arguments : Arguments) (hcount : InArguments count) :
    arguments.text.foldl step ⟨count, none, false, seen⟩ =
      ⟨count, none, false, seen + if count = .oneParen then arguments.commas else 0⟩ := by
  induction arguments generalizing count seen with
  | nil => simp [Arguments.text, Arguments.commas]
  | plain c hquote hbracket rest ih =>
    rw [Arguments.text, List.foldl_cons, step_plain hquote hbracket, ih hcount, Arguments.commas]
    by_cases hone : count = .oneParen <;> simp [hone, Nat.add_assoc]
  | literal quoted rest ih =>
    rw [Arguments.text, List.foldl_append, foldl_step_literal, ih hcount, Arguments.commas]
  | @group opening closing hpair inner rest ihinner ihrest =>
    obtain ⟨hinside, hdeeper⟩ := hcount.after_opening hpair
    have hsigns : isBracket opening = true ∧ isBracket closing = true := by
      cases hpair <;> decide
    rw [Arguments.text, List.foldl_cons, step_of_isBracket hsigns.1, List.foldl_append,
      ihinner hinside, if_neg hdeeper, Nat.add_zero, List.foldl_cons, step_of_isBracket hsigns.2,
      after_closing hpair, ihrest hcount, Arguments.commas]

end Reading

/-! ## The argument -/

/-- What is read up to a cursor behind a parenthesis. -/
theorem activeArgument?_append (front arguments behind : Text) :
    activeArgument? (front ++ '(' :: arguments ++ behind) front.length
        (front ++ '(' :: arguments).length =
      let reading := arguments.foldl Reading.step ⟨.oneParen, none, false, 0⟩
      if reading.count = .oneParen then some reading.commas else none := by
  have hcut : ((front ++ '(' :: arguments ++ behind).take
      (front ++ '(' :: arguments).length).drop front.length = '(' :: arguments := by
    rw [List.take_left, List.drop_left]
  rw [activeArgument?, hcut]
  rfl

/-- Behind the parenthesis of a call and arguments the cursor is in the argument whose number is
that of the commas outside of literals and groups; behind a further bracket and what can stand in it
it is in none. -/
theorem activeArgument?_eq_commas (front behind : Text) (arguments : Arguments) :
    activeArgument? (front ++ '(' :: arguments.text ++ behind) front.length
        (front ++ '(' :: arguments.text).length = some arguments.commas ∧
      ∀ opening ∈ ['(', '[', '\x7b'], ∀ inner : Arguments,
        activeArgument? (front ++ '(' :: (arguments.text ++ opening :: inner.text) ++ behind)
          front.length (front ++ '(' :: (arguments.text ++ opening :: inner.text)).length =
            none := by
  have hread : arguments.text.foldl Reading.step ⟨.oneParen, none, false, 0⟩ =
      ⟨.oneParen, none, false, arguments.commas⟩ := by
    rw [Reading.foldl_step_arguments arguments inArguments_oneParen, if_pos rfl, Nat.zero_add]
  constructor
  · rw [activeArgument?_append, hread]
    rfl
  · intro opening hopening inner
    obtain ⟨closing, hpair⟩ : ∃ closing, Pair opening closing := by
      simp only [List.mem_cons, List.not_mem_nil, or_false] at hopening
      rcases hopening with rfl | rfl | rfl
      · exact ⟨_, .parens⟩
      · exact ⟨_, .squares⟩
      · exact ⟨_, .braces⟩
    obtain ⟨hinside, hdeeper⟩ := inArguments_oneParen.after_opening hpair
    have hbracket : isBracket opening = true := by
      cases hpair <;> decide
    rw [activeArgument?_append, List.foldl_append, hread, List.foldl_cons,
      Reading.step_of_isBracket hbracket, Reading.foldl_step_arguments inner hinside]
    exact if_neg hdeeper

/-- Two commas count, none in a literal or between square brackets; in an open table there is no
argument. -/
theorem activeArgument?_eq_commas_table :
    activeArgument? "f(\"\\\",(\", [b, '\x7d'], ".toList 1 20 = some 2 ∧
      '\x7b' ∈ ['(', '[', '\x7b'] ∧
      activeArgument? "f(\"\\\",(\", [b, '\x7d'], \x7bc, ".toList 1 24 = none := by
  let first : Literal := ⟨'"', "\\\",(".toList, rfl,
    .escaped (.plain (by decide) (by decide) (.plain (by decide) (by decide) .nil))⟩
  let second : Literal := ⟨'\'', ['\x7d'], rfl, .plain (by decide) (by decide) .nil⟩
  let arguments : Arguments := .literal first (.plain ',' rfl rfl (.plain ' ' rfl rfl
    (.group .squares
      (.plain 'b' rfl rfl (.plain ',' rfl rfl (.plain ' ' rfl rfl (.literal second .nil))))
      (.plain ',' rfl rfl (.plain ' ' rfl rfl .nil)))))
  let inner : Arguments := .plain 'c' rfl rfl (.plain ',' rfl rfl (.plain ' ' rfl rfl .nil))
  obtain ⟨hargument, htable⟩ := activeArgument?_eq_commas ['f'] [] arguments
  exact ⟨hargument, by decide, htable '\x7b' (by decide) inner⟩

end LuaAssist.CallSite

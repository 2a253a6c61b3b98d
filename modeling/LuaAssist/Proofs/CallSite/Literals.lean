import LuaAssist.Proofs.CallSite.Innermost
import LuaAssist.Require

/-!
# Literals among the arguments

The walk to the parenthesis of a call knows no literals: it counts the brackets between their quotes
like all others. So what a literal contains does not matter exactly if the walk passes over it, and
then the call behind the arguments is the one that is found directly behind its parenthesis.
-/

namespace LuaAssist.CallSite

open Require (isQuote)

variable {arguments contents : Text} {quote : Char}

/-- Leftwards from a parenthesis stands this. -/
theorem trimStart_leftOf_paren (front : Text) :
    Text.trimStart (TypedChain.leftOf (front ++ ['(']) (front ++ ['(']).length) =
      '(' :: front.reverse := by
  have hleft := trimStart_leftOf_arguments front [] []
  rwa [List.append_nil] at hleft

/-- Behind arguments over which the walk passes, which are blank or end with a comma, the same call
is found as directly behind the parenthesis in front of them. -/
theorem find?_of_passable (front behind : Text) (hpassable : Passable arguments)
    (hlast : ∀ c ∈ (Text.trimEnd arguments).getLast?, c = ',') :
    find? (front ++ '(' :: arguments ++ behind) (front ++ '(' :: arguments).length =
      find? (front ++ ['(']) (front ++ ['(']).length := by
  have hsign : ((Text.trimEnd arguments).reverse ++ '(' :: front.reverse).head? = some '(' ∨
      ((Text.trimEnd arguments).reverse ++ '(' :: front.reverse).head? = some ',' := by
    cases htrimmed : (Text.trimEnd arguments).getLast? with
    | none => simp [List.getLast?_eq_none_iff.mp htrimmed]
    | some c => simp [htrimmed, hlast c htrimmed]
  have hwalk : beforeOpen? .none ((Text.trimEnd arguments).reverse ++ '(' :: front.reverse) =
      some front.reverse := beforeOpen?_paren_iff.mpr (passable_trimEnd_iff.mpr hpassable)
  unfold find?
  dsimp only
  rw [trimStart_leftOf_arguments, trimStart_leftOf_paren,
    if_neg (by rcases hsign with h | h <;> simp [h]), hwalk, if_neg (by simp), beforeOpen?,
    if_pos (Brackets.after_none_eq_oneParen.mpr rfl)]

/-- A call whose first argument is a literal, up to the cursor in the second argument. -/
def behindLiteral (front : Text) (quote : Char) (contents : Text) : Text :=
  front ++ '(' :: (quote :: (contents ++ [quote, ',', ' ']))

/-- No quote is a bracket. -/
theorem isBracket_of_isQuote (hquote : isQuote quote = true) :
    Brackets.isBracket quote = false := by
  simp only [isQuote, Bool.or_eq_true, decide_eq_true_eq] at hquote
  rcases hquote with rfl | rfl <;> rfl

/-- Quotes, comma and blank do not matter to the walk. -/
theorem passable_literal_iff (hquote : isQuote quote = true) :
    Passable (quote :: (contents ++ [quote, ',', ' '])) ↔ Passable contents := by
  have hplain := isBracket_of_isQuote hquote
  rw [passable_cons_iff hplain, passable_append_iff]
  simp only [List.forall_mem_cons, List.not_mem_nil, false_implies, implies_true, and_true]
  exact ⟨hplain, rfl, rfl⟩

/-- Of what stands behind the literal the comma is left. -/
theorem trimEnd_literal (quote : Char) (contents : Text) :
    Text.trimEnd (quote :: (contents ++ [quote, ',', ' '])) =
      quote :: (contents ++ [quote]) ++ [','] := by
  have hsplit : quote :: (contents ++ [quote, ',', ' ']) =
      quote :: (contents ++ [quote]) ++ [','] ++ [' '] := by
    simp
  rw [hsplit, Text.trimEnd_append_of_eq_nil _ (by decide)]
  refine Text.trimEnd_of_getLast? ?_
  rw [List.getLast?_concat]
  decide

/-- Behind a literal over which the walk passes the same call is found as in front of it. -/
theorem find?_behindLiteral (hquote : isQuote quote = true) (front behind : Text)
    (hcontents : Passable contents) :
    find? (behindLiteral front quote contents ++ behind)
        (behindLiteral front quote contents).length =
      find? (front ++ ['(']) (front ++ ['(']).length := by
  refine find?_of_passable front behind ((passable_literal_iff hquote).mpr hcontents) ?_
  rw [trimEnd_literal, List.getLast?_concat]
  exact fun c hc => (Option.some.inj hc).symm

/-- What a literal contains does not move the call in whose arguments it stands, whatever stands in
front of the call, exactly if the walk passes over it. The other contents are taken from all over
which the walk passes, such as those without brackets. -/
theorem find?_literal_iff (hquote : isQuote quote = true) (contents behind : Text) :
    (∀ front other, Passable other →
      find? (behindLiteral front quote contents ++ behind)
          (behindLiteral front quote contents).length =
        find? (behindLiteral front quote other ++ behind)
          (behindLiteral front quote other).length) ↔
      Passable contents := by
  refine ⟨fun hall => ?_, fun hcontents front other hother => ?_⟩
  · -- A single name in front of the parenthesis shows whether the walk has come there.
    have hname : find? (['f'] ++ ['(']) (['f'] ++ ['(']).length = some ⟨['f'], 0, 1⟩ := by
      decide +kernel
    have hempty : Passable [] := by decide
    have hfound := hall ['f'] [] hempty
    rw [find?_behindLiteral hquote ['f'] behind hempty, hname] at hfound
    obtain ⟨before, hbefore, _, _, _, hopen⟩ := exists_before_of_find? hfound
    rw [behindLiteral, trimStart_leftOf_arguments] at hbefore
    obtain ⟨passed, sign, hleft, _⟩ := @beforeOpen?_eq_some _ _ [] hbefore
    obtain ⟨_, hbehind⟩ := List.append_inj' hleft (by simpa using hopen.symm)
    obtain ⟨_, rfl⟩ := List.cons.inj hbehind
    rw [← passable_literal_iff hquote, ← passable_trimEnd_iff]
    exact beforeOpen?_paren_iff.mp hbefore
  · rw [find?_behindLiteral hquote front behind hcontents,
      find?_behindLiteral hquote front behind hother]

/-- A call in a literal whose brackets are closed is passed over like a literal without brackets. -/
theorem find?_literal_iff_call :
    isQuote '"' = true ∧ Passable "g(x)".toList ∧ Passable "y".toList ∧
      find? "f(\"g(x)\", )".toList 10 = find? "f(\"y\", )".toList 7 := by
  have hliteral := @find?_literal_iff '"' rfl "g(x)".toList [')']
  exact ⟨rfl, by decide, by decide, hliteral.mpr (by decide) ['f'] ['y'] (by decide)⟩

/-- A bracket in a literal hides the call from the walk. -/
theorem find?_misses_literal :
    find? "f(\"y\", ".toList 7 = some ⟨['f'], 0, 1⟩ ∧ find? "f(\")\", ".toList 7 = none := by
  decide +kernel

end LuaAssist.CallSite

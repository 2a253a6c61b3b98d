import LuaAssist.CallSite
import LuaAssist.Proofs.Text.Names

/-!
# The call that is found at the cursor

What is found left of the cursor: a bracket from which on one parenthesis more is opened than
closed, and the name in front of it. The bracket is the parenthesis of the call exactly when the
brackets behind it are even; where they are not, any bracket can be taken for it.
-/

namespace LuaAssist

variable {c : Char} {text left before : Text}

/-! ## Brackets -/

namespace Brackets

/-- The brackets that a text opens beyond those it closes. -/
def excess (text : Text) : Brackets :=
  ⟨text.count '(' - text.count ')', text.count '[' - text.count ']',
    text.count '\x7b' - text.count '\x7d'⟩

/-- Reading one more character counts it. -/
theorem after_excess (text : Text) (c : Char) : (excess text).after c = excess (c :: text) := by
  unfold after
  -- One case for each kind of bracket sign, and the last one for all other characters.
  iterate 6
    split
    · rename_i heq
      subst heq
      simp [excess]
      omega
  rename_i h1 h2 h3 h4 h5 h6
  simp [excess, h1, h2, h3, h4, h5, h6]

/-- Blanks count nothing. -/
theorem excess_of_isBlank (hblank : ∀ c ∈ text, Text.isBlank c = true) : excess text = .none := by
  have hcount (sign : Char) (hsign : Text.isBlank sign = false) : text.count sign = 0 := by
    refine List.count_eq_zero.mpr fun hmem => ?_
    rw [hblank sign hmem] at hsign
    cases hsign
  simp only [excess, none, hcount '(' (by decide), hcount ')' (by decide), hcount '[' (by decide),
    hcount ']' (by decide), hcount '\x7b' (by decide), hcount '\x7d' (by decide)]
  rfl

/-- Of all characters only an opening parenthesis opens one. -/
theorem after_none_eq_oneParen : none.after c = oneParen ↔ c = '(' := by
  unfold after
  grind [none, oneParen]

/-- An opened parenthesis counts one. -/
theorem excess_paren (text : Text) : excess ('(' :: text) = .oneParen ↔ excess text = .none := by
  simp only [excess, oneParen, none, Brackets.mk.injEq, List.count_cons]
  constructor
  · rintro ⟨hparens, hsquares, hbraces⟩
    simp at hparens hsquares hbraces
    omega
  · rintro ⟨hparens, hsquares, hbraces⟩
    simp
    omega

end Brackets

namespace CallSite

/-- From the bracket that is found to the end of the text one parenthesis more is opened than
closed. `seen` is what has been passed before, in the order of the document. -/
theorem beforeOpen?_eq_some {seen : Text}
    (hfound : beforeOpen? (Brackets.excess seen) left = some before) :
    ∃ passed sign, left = passed ++ sign :: before ∧
      Brackets.excess (sign :: (passed.reverse ++ seen)) = .oneParen := by
  induction left generalizing seen with
  | nil => cases hfound
  | cons c rest ih =>
    rw [beforeOpen?, Brackets.after_excess] at hfound
    split at hfound
    · rename_i hone
      cases hfound
      exact ⟨[], c, rfl, hone⟩
    · obtain ⟨passed, sign, hrest, hone⟩ := ih hfound
      refine ⟨c :: passed, sign, by rw [hrest, List.cons_append], ?_⟩
      rwa [List.reverse_cons, List.append_assoc, List.singleton_append]

/-- Among parentheses alone the first that is open is found. -/
theorem beforeOpen?_of_parens {count : Brackets} (hsquares : count.squares = 0)
    (hbraces : count.braces = 0) (hparens : count.parens ≤ 0)
    (hplain : ∀ c ∈ left, c ∉ ['[', ']', '\x7b', '\x7d'])
    (hfound : beforeOpen? count left = some before) :
    ∃ passed, left = passed ++ '(' :: before := by
  induction left generalizing count with
  | nil => cases hfound
  | cons c rest ih =>
    obtain ⟨hfirst, hrest⟩ := List.forall_mem_cons.mp hplain
    have hstep : (count.after c).squares = 0 ∧ (count.after c).braces = 0 ∧
        (c ≠ '(' → (count.after c).parens ≤ 0) ∧
        (count.after c ≠ .oneParen → (count.after c).parens ≤ 0) := by
      simp only [List.mem_cons, List.not_mem_nil, or_false, not_or] at hfirst
      unfold Brackets.after
      grind [Brackets.oneParen]
    obtain ⟨hsquares, hbraces, hother, hmore⟩ := hstep
    rw [beforeOpen?] at hfound
    split at hfound
    · rename_i hone
      by_cases hparen : c = '('
      · cases hfound
        exact ⟨[], by rw [hparen, List.nil_append]⟩
      · have hle := hother hparen
        rw [hone] at hle
        exact absurd hle (by decide)
    · rename_i hone
      obtain ⟨passed, heq⟩ := ih hsquares hbraces (hmore hone) hrest hfound
      exact ⟨c :: passed, by rw [heq, List.cons_append]⟩

/-! ## The name in front of the bracket -/

/-- A run of name characters has no blanks in front. -/
theorem trimStart_eq_self (hrun : left.takeWhile Text.isIdentifierPart ≠ []) :
    Text.trimStart left = left := by
  cases left with
  | nil => rfl
  | cons c rest =>
    cases hpart : Text.isIdentifierPart c with
    | false => simp [hpart] at hrun
    | true => simp [Text.trimStart, Text.isBlank_of_isIdentifierPart hpart]

/-- The nearest word of a chain stands behind nothing but blanks. -/
theorem head?_chainWords {afterWord : Bool} {callee : Text} (hstart : afterWord = false)
    (hhead : (chainWords afterWord left).head? = some callee) (hne : callee ≠ []) :
    callee = ((Text.trimStart left).takeWhile Text.isIdentifierPart).reverse := by
  fun_induction chainWords afterWord left with
  | case1 => cases hhead
  | case2 _ left run _ hrun =>
    cases hhead
    rw [trimStart_eq_self (mt List.isEmpty_iff.mpr hrun)]
  | case3 _ left run =>
    cases hhead
    rw [trimStart_eq_self (mt List.reverse_eq_nil_iff.mpr hne)]
  | case4 => cases hstart
  | case5 _ left run _ _ _ _ _ hrun =>
    cases hhead
    rw [trimStart_eq_self (List.isEmpty_eq_false_iff.mp ((Bool.not_eq_true' _).mp hrun))]
  | case6 afterWord left run sign rest hdrop blank _ hrun hblank ih =>
    have hempty : run = [] := by simpa using hrun
    rw [hempty, List.length_nil, List.drop_zero] at hdrop
    rw [ih hstart hhead, hdrop]
    simp only [Text.trimStart, List.dropWhile_cons, show Text.isBlank sign = true from hblank,
      if_true]
  | case7 => cases hstart
  | case8 => cases hhead

/-- What is known of a call that is found: the text before its bracket, from which its name is
taken. -/
theorem exists_before_of_find? {offset : Nat} {site : CallSite}
    (hfound : find? text offset = some site) :
    ∃ before, beforeOpen? .none (Text.trimStart (TypedChain.leftOf text offset)) = some before ∧
      site.callee ≠ [] ∧
      site.callee = ((Text.trimStart before).takeWhile Text.isIdentifierPart).reverse ∧
      site.start = ((Text.trimStart before).dropWhile Text.isIdentifierPart).length ∧
      site.openOffset = before.length := by
  unfold find? at hfound
  dsimp only at hfound
  split at hfound
  · cases hfound
  · obtain ⟨before, hbefore, hfound⟩ := Option.bind_eq_some_iff.mp hfound
    obtain ⟨callee, hcallee, hfound⟩ := Option.bind_eq_some_iff.mp hfound
    obtain ⟨first, _, hfound⟩ := Option.bind_eq_some_iff.mp hfound
    split at hfound
    · cases hfound
    · rename_i hnamed
      cases hfound
      have hne : callee ≠ [] := by
        rintro rfl
        simp at hnamed
      exact ⟨before, hbefore, hne, head?_chainWords rfl hcallee hne, rfl, rfl⟩

/-- The name of a call stands in the text, and nothing but blanks between it and the bracket. -/
structure Named (text : Text) (site : CallSite) : Prop where
  callee_ne_nil : site.callee ≠ []
  isIdentifierPart_of_mem : ∀ c ∈ site.callee, Text.isIdentifierPart c = true
  callee_eq : (text.drop site.start).take site.callee.length = site.callee
  stop_le : site.start + site.callee.length ≤ site.openOffset
  isBlank_of_mem : ∀ c ∈ (text.take site.openOffset).drop (site.start + site.callee.length),
    Text.isBlank c = true

/-- The name in front of a bracket stands in every text that goes on behind it. -/
theorem named_of_before {site : CallSite} (rest : Text) (hne : site.callee ≠ [])
    (hcallee : site.callee = ((Text.trimStart before).takeWhile Text.isIdentifierPart).reverse)
    (hstart : site.start = ((Text.trimStart before).dropWhile Text.isIdentifierPart).length)
    (hopen : site.openOffset = before.length) : Named (before.reverse ++ rest) site := by
  let blanks := (before.takeWhile Text.isBlank).reverse
  let outer := ((Text.trimStart before).dropWhile Text.isIdentifierPart).reverse
  have hbefore : before.reverse = outer ++ site.callee ++ blanks := by
    rw [hcallee, ← List.reverse_append, ← List.reverse_append, List.takeWhile_append_dropWhile,
      Text.trimStart, List.takeWhile_append_dropWhile]
  have hreverse : before.length = before.reverse.length := List.length_reverse.symm
  have houter : outer.length = site.start := by rw [hstart, List.length_reverse]
  have hlength : outer.length + site.callee.length + blanks.length = site.openOffset := by
    rw [hopen, hreverse, hbefore, List.length_append, List.length_append]
  refine ⟨hne, ?_, ?_, by omega, ?_⟩
  · rw [hcallee]
    intro c hmem
    exact List.all_eq_true.mp List.all_takeWhile c (List.mem_reverse.mp hmem)
  · rw [hbefore, ← houter]
    simp
  · rw [hopen, hreverse, List.take_left, hbefore, ← houter, List.drop_left' List.length_append]
    intro c hmem
    exact List.all_eq_true.mp List.all_takeWhile c (List.mem_reverse.mp hmem)

/-- A bracket lies before an offset, and from it to the offset one parenthesis more is opened than
closed, and no other bracket. -/
structure OpensBefore (text : Text) (bracket offset : Nat) : Prop where
  lt_offset : bracket < offset
  lt_length : bracket < text.length
  excess_eq : Brackets.excess ((text.take offset).drop bracket) = .oneParen

/-- The text up to the cursor, cut at the bracket that is found. -/
theorem exists_take_eq {offset : Nat}
    (hfound : beforeOpen? .none (Text.trimStart (TypedChain.leftOf text offset)) = some before) :
    ∃ sign behind, text.take offset = before.reverse ++ sign :: behind ∧
      Brackets.excess (sign :: behind) = .oneParen ∧
      ((∀ c ∈ text.take offset, c ∉ ['[', ']', '\x7b', '\x7d']) → sign = '(') := by
  let blanks := ((TypedChain.leftOf text offset).takeWhile Text.isBlank).reverse
  have htake : text.take offset =
      (Text.trimStart (TypedChain.leftOf text offset)).reverse ++ blanks := by
    rw [← List.reverse_append, Text.trimStart, List.takeWhile_append_dropWhile]
    exact (List.reverse_reverse _).symm
  have hblanks : Brackets.excess blanks = .none := by
    refine Brackets.excess_of_isBlank fun c hmem => ?_
    exact List.all_eq_true.mp List.all_takeWhile c (List.mem_reverse.mp hmem)
  obtain ⟨passed, sign, hleft, hone⟩ := beforeOpen?_eq_some (hblanks ▸ hfound)
  refine ⟨sign, passed.reverse ++ blanks, ?_, hone, fun hplain => ?_⟩
  · rw [htake, hleft]
    simp
  · have hplain' : ∀ c ∈ Text.trimStart (TypedChain.leftOf text offset),
        c ∉ ['[', ']', '\x7b', '\x7d'] := by
      intro c hmem
      exact hplain c (by rw [htake]; simp [hmem])
    obtain ⟨passed', hparen⟩ := beforeOpen?_of_parens (by decide) (by decide) (by decide)
      hplain' hfound
    rw [hleft] at hparen
    exact (List.cons.inj (List.append_inj_right' hparen rfl)).1

/-- A call that is found has its name in the text, directly or behind blanks in front of a bracket
that lies before the cursor. The bracket is a parenthesis exactly when behind it, up to the cursor,
each kind of bracket is closed as often as it is opened, and so it is where no other brackets than
parentheses stand before the cursor. -/
theorem find?_names_call {offset : Nat} {site : CallSite}
    (hfound : find? text offset = some site) :
    Named text site ∧ OpensBefore text site.openOffset offset ∧
      (text[site.openOffset]? = some '(' ↔
        Brackets.excess ((text.take offset).drop (site.openOffset + 1)) = .none) ∧
      ((∀ c ∈ text.take offset, c ∉ ['[', ']', '\x7b', '\x7d']) →
        text[site.openOffset]? = some '(') := by
  obtain ⟨before, hbefore, hne, hcallee, hstart, hopen⟩ := exists_before_of_find? hfound
  obtain ⟨sign, behind, htake, hone, hplain⟩ := exists_take_eq hbefore
  have htext : text = before.reverse ++ sign :: (behind ++ text.drop offset) := by
    rw [← List.cons_append, ← List.append_assoc, ← htake, List.take_append_drop]
  have hsign : text[site.openOffset]? = some sign := by
    rw [htext, hopen, List.getElem?_append_right (by simp)]
    simp
  have hdrop : (text.take offset).drop site.openOffset = sign :: behind := by
    rw [htake, hopen, List.drop_left' List.length_reverse]
  have hbehind : (text.take offset).drop (site.openOffset + 1) = behind := by
    rw [← List.drop_drop, hdrop, List.drop_succ_cons, List.drop_zero]
  refine ⟨?_, ⟨?_, ?_, by rw [hdrop, hone]⟩, ?_, fun hparens => by rw [hsign, hplain hparens]⟩
  · have hnamed := named_of_before (sign :: (behind ++ text.drop offset)) hne hcallee hstart hopen
    rwa [← htext] at hnamed
  · have hlength := congrArg List.length htake
    simp only [List.length_take, List.length_append, List.length_reverse, List.length_cons]
      at hlength
    omega
  · have hlength := congrArg List.length htext
    simp only [List.length_append, List.length_reverse, List.length_cons] at hlength
    omega
  · rw [hsign, hbehind]
    constructor
    · intro hparen
      cases hparen
      exact (Brackets.excess_paren behind).mp hone
    · intro heven
      rw [← Brackets.after_excess, heven, Brackets.after_none_eq_oneParen] at hone
      rw [hone]

/-- A call behind whose first argument, a table, the cursor stands. -/
theorem find?_names_call_table :
    find? "f (\x7b x \x7d, ".toList 10 = some ⟨['f'], 0, 2⟩ ∧
      Named "f (\x7b x \x7d, ".toList ⟨['f'], 0, 2⟩ := by
  have hfound : find? "f (\x7b x \x7d, ".toList 10 = some ⟨['f'], 0, 2⟩ := by decide +kernel
  exact ⟨hfound, (find?_names_call hfound).1⟩

/-- Where the brackets behind it are uneven, another bracket is taken for the parenthesis of the
call: here the square one. -/
theorem find?_misses_paren :
    find? "f[(],".toList 5 = some ⟨['f'], 0, 1⟩ ∧ "f[(],".toList[1]? = some '[' := by
  decide +kernel

end CallSite

end LuaAssist

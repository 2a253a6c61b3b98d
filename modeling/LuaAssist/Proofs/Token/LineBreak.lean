import LuaAssist.Token.Lexer
import Mathlib.Data.List.Infix

/-!
# Tokens in front of a line break

How the reading of one token depends on what comes behind a line break. No bracket, no
operator and no numeral goes across a break, so a token that ends before the break is read
the same whatever follows, and a long token that is open at the break goes on behind it.
-/

namespace LuaAssist.Lexer

variable {memory : Memory} {c : Char} {rest next : Text} {level : Nat}

/-- A test of the first character that a line feed fails sees no text behind a break. -/
theorem any_head?_append_break (test : Char → Bool) (hbreak : test '\n' = false) :
    (rest ++ '\n' :: next).head?.any test = rest.head?.any test := by
  cases rest <;> simp [hbreak]

/-- Whether the first character is a given one does not depend on text behind a break. -/
theorem head?_append_break {mark : Char} (hmark : mark ≠ '\n') :
    (rest ++ '\n' :: next).head? = some mark ↔ rest.head? = some mark := by
  cases rest <;> simp [hmark.symm]

/-- A run of characters of which none is a line feed ends at a break. -/
theorem takeWhile_append_break {test : Char → Bool} (hbreak : test '\n' = false) :
    (rest ++ '\n' :: next).takeWhile test = rest.takeWhile test := by
  induction rest with
  | nil => simp [hbreak]
  | cons first rest ih => simp [List.takeWhile_cons, ih]

/-- What follows such a run goes on behind the break. -/
theorem dropWhile_append_break {test : Char → Bool} (hbreak : test '\n' = false) :
    (rest ++ '\n' :: next).dropWhile test = rest.dropWhile test ++ '\n' :: next := by
  induction rest with
  | nil => simp [hbreak]
  | cons first rest ih =>
    simp only [List.cons_append, List.dropWhile_cons, ih]
    split <;> rfl

/-- A run of characters that ends inside a text is not changed by what follows. -/
theorem takeWhile_append_of_lt {test : Char → Bool}
    (hends : (rest.takeWhile test).length < rest.length) :
    (rest ++ next).takeWhile test = rest.takeWhile test := by
  rw [List.takeWhile_append, if_neg (by omega)]

/-- The front of a text with a break in it, up to a place behind the break. -/
theorem take_append_break (length : Nat) :
    (rest ++ '\n' :: next).take (rest.length + 1 + length) = rest ++ '\n' :: next.take length := by
  rw [Nat.add_assoc, List.take_length_add_append, Nat.add_comm, List.take_succ_cons]

/-- What follows a place behind the break. -/
theorem drop_append_break (length : Nat) :
    (rest ++ '\n' :: next).drop (rest.length + 1 + length) = next.drop length := by
  rw [Nat.add_assoc, List.drop_length_add_append, Nat.add_comm, List.drop_succ_cons]

/-! ## Long brackets -/

/-- A long bracket opens where a second `[` stands behind a run of `=`. -/
theorem longOpen?_eq (text : Text) :
    longOpen? text =
      if (text.dropWhile (· = '=')).head? = some '[' then some (text.takeWhile (· = '=')).length
      else none := by
  unfold longOpen?
  split
  · rename_i hrest
    rw [hrest, List.head?_cons, if_pos rfl]
  · rename_i hrest
    rw [if_neg]
    intro hhead
    obtain ⟨tail, htail⟩ := List.head?_eq_some_iff.mp hhead
    exact hrest tail htail

/-- A long bracket is its level and a second `[`. -/
theorem longOpen?_eq_some {text : Text} {level : Nat} :
    longOpen? text = some level ↔ ∃ body, text = List.replicate level '=' ++ '[' :: body := by
  rw [longOpen?_eq]
  constructor
  · intro hopen
    split at hopen
    · rename_i hhead
      obtain ⟨body, hbody⟩ := List.head?_eq_some_iff.mp hhead
      cases hopen
      refine ⟨body, ?_⟩
      have hrun : text.takeWhile (· = '=') =
          List.replicate (text.takeWhile (· = '=')).length '=' :=
        List.eq_replicate_of_mem fun d hd =>
          of_decide_eq_true (List.all_eq_true.mp List.all_takeWhile d hd)
      rw [← hrun, ← hbody, List.takeWhile_append_dropWhile]
    · cases hopen
  · rintro ⟨body, rfl⟩
    rw [List.dropWhile_append_of_pos (by simp), List.takeWhile_append_of_pos (by simp)]
    simp

/-- A closing long bracket is its level between two `]`. -/
theorem longCloses_iff {text : Text} {level : Nat} :
    longCloses level text = true ↔
      ∃ body, text = ']' :: (List.replicate level '=' ++ ']' :: body) := by
  constructor
  · intro hcloses
    unfold longCloses at hcloses
    split at hcloses
    · rename_i tail
      simp only [Bool.and_eq_true, decide_eq_true_eq] at hcloses
      obtain ⟨hlevel, hlast⟩ := hcloses
      obtain ⟨body, hbody⟩ := List.head?_eq_some_iff.mp hlast
      have hrun : tail.takeWhile (· = '=') = List.replicate level '=' := by
        rw [← hlevel]
        exact List.eq_replicate_of_mem fun d hd =>
          of_decide_eq_true (List.all_eq_true.mp List.all_takeWhile d hd)
      exact ⟨body, by rw [← hrun, ← hbody, List.takeWhile_append_dropWhile]⟩
    · cases hcloses
  · rintro ⟨body, rfl⟩
    rw [longCloses, List.dropWhile_append_of_pos (by simp), List.takeWhile_append_of_pos (by simp)]
    simp

/-- No long bracket opens across a break. -/
theorem longOpen?_append_break : longOpen? (rest ++ '\n' :: next) = longOpen? rest := by
  have hbreak : decide ('\n' = '=') = false := by decide
  rw [longOpen?_eq, longOpen?_eq, takeWhile_append_break hbreak, dropWhile_append_break hbreak]
  simp only [head?_append_break (by decide : '[' ≠ '\n')]

/-- No long bracket closes across a break. -/
theorem longCloses_append_break (hne : rest ≠ []) :
    longCloses level (rest ++ '\n' :: next) = longCloses level rest := by
  have hbreak : decide ('\n' = '=') = false := by decide
  cases rest with
  | nil => exact absurd rfl hne
  | cons first rest =>
    by_cases hfirst : first = ']'
    · subst hfirst
      rw [List.cons_append, longCloses, longCloses, takeWhile_append_break hbreak,
        dropWhile_append_break hbreak]
      simp only [head?_append_break (by decide : ']' ≠ '\n')]
    · simp [longCloses, hfirst]

/-- Without the sign with which it closes, no characters in front close a long bracket. -/
theorem longClose?_append_left {front : Text} (hfront : ∀ c ∈ front, c ≠ ']') (level : Nat)
    (text : Text) :
    longClose? level (front ++ text) = (longClose? level text).map (front.length + ·) := by
  induction front with
  | nil => simp
  | cons c front ih =>
    rw [List.forall_mem_cons] at hfront
    rw [List.cons_append, longClose?, if_neg (by simp [longCloses, hfront.1]), ih hfront.2,
      Option.map_map]
    congr 1
    funext length
    simp only [Function.comp_apply, List.length_cons]
    omega

/-- A long bracket that closes in a text closes in every longer text at the same place. -/
theorem longClose?_append {length : Nat} (hclose : longClose? level rest = some length) :
    longClose? level (rest ++ '\n' :: next) = some length := by
  induction rest generalizing length with
  | nil => cases hclose
  | cons first rest ih =>
    rw [List.cons_append, longClose?, ← List.cons_append,
      longCloses_append_break (List.cons_ne_nil _ _)]
    rw [longClose?] at hclose
    split at hclose
    · rename_i hhere
      rw [if_pos hhere]
      exact hclose
    · rename_i hhere
      rw [if_neg hhere]
      obtain ⟨further, hfurther, rfl⟩ := Option.map_eq_some_iff.mp hclose
      rw [ih hfurther, Option.map_some]

/-- What is open at a break is closed by the first closing bracket behind it. -/
theorem longClose?_append_break (hopen : longClose? level rest = none) :
    longClose? level (rest ++ '\n' :: next) =
      (longClose? level next).map (rest.length + 1 + ·) := by
  induction rest with
  | nil => simp [longClose?, longCloses, Nat.add_comm]
  | cons first rest ih =>
    rw [longClose?] at hopen
    split at hopen
    · cases hopen
    · rename_i hhere
      rw [List.cons_append, longClose?, ← List.cons_append,
        longCloses_append_break (List.cons_ne_nil _ _), if_neg hhere,
        ih (Option.map_eq_none_iff.mp hopen), Option.map_map]
      congr 1
      funext length
      simp only [Function.comp_apply, List.length_cons]
      omega

/-- A closing bracket has two brackets around its level. -/
theorem le_of_longCloses (hcloses : longCloses level rest = true) : level + 2 ≤ rest.length := by
  unfold longCloses at hcloses
  split at hcloses
  · rename_i tail
    simp only [Bool.and_eq_true, decide_eq_true_eq] at hcloses
    obtain ⟨hlevel, hlast⟩ := hcloses
    obtain ⟨behind, hbehind⟩ := List.head?_eq_some_iff.mp hlast
    have hsplit :=
      congrArg List.length (List.takeWhile_append_dropWhile (p := (· = '=')) (l := tail))
    rw [List.length_append, hbehind, List.length_cons] at hsplit
    rw [List.length_cons]
    omega
  · cases hcloses

/-- A closing bracket lies inside the text in which it is found. -/
theorem longClose?_le {length : Nat} (hclose : longClose? level rest = some length) :
    length ≤ rest.length := by
  induction rest generalizing length with
  | nil => cases hclose
  | cons first rest ih =>
    rw [longClose?] at hclose
    split at hclose
    · rename_i hhere
      cases hclose
      exact le_of_longCloses hhere
    · obtain ⟨further, hfurther, rfl⟩ := Option.map_eq_some_iff.mp hclose
      exact Nat.succ_le_succ (ih hfurther)

/-- A closing bracket is not empty. -/
theorem longClose?_pos {length : Nat} (hclose : longClose? level rest = some length) :
    0 < length := by
  cases rest with
  | nil => cases hclose
  | cons first rest =>
    rw [longClose?] at hclose
    split at hclose
    · cases hclose
      exact Nat.succ_pos _
    · obtain ⟨further, _, rfl⟩ := Option.map_eq_some_iff.mp hclose
      exact Nat.succ_pos _

/-! ## Short tokens -/

/-- A backslash at the end of a quoted string is a character like any other. -/
theorem quotedLength_cons {quote : Char} (hplain : c = '\\' → rest = []) :
    quotedLength quote (c :: rest) = if c = quote then 1 else quotedLength quote rest + 1 := by
  rw [quotedLength]
  rintro escaped behind rfl rfl
  exact absurd (hplain rfl) (List.cons_ne_nil _ _)

/-- A quoted string that is closed before the end of a text is not changed by what follows. -/
theorem quotedLength_append {quote : Char} (hends : quotedLength quote rest < rest.length) :
    quotedLength quote (rest ++ next) = quotedLength quote rest := by
  fun_induction quotedLength quote rest with
  | case1 => simp at hends
  | case2 escaped rest ih =>
    simp only [List.length_cons] at hends
    simp only [List.cons_append, quotedLength, ih (by omega)]
  | case3 rest hplain =>
    have hne : rest ≠ [] := by
      rintro rfl
      simp at hends
    have hquote : quote ≠ '\\' := by
      rintro rfl
      obtain ⟨first, behind, rfl⟩ := List.exists_cons_of_ne_nil hne
      exact hplain first behind rfl rfl
    rw [List.cons_append, quotedLength_cons (fun h => absurd h hquote), if_pos rfl]
  | case4 c rest hplain hother ih =>
    simp only [List.length_cons] at hends
    have hescape : c ≠ '\\' := by
      rintro rfl
      cases rest with
      | nil => simp [quotedLength] at hends
      | cons first behind => exact hplain first behind rfl rfl
    rw [List.cons_append, quotedLength_cons (fun h => absurd h hescape), if_neg hother,
      ih (by omega)]

/-- A sign behind the letter of an exponent. -/
def isSign (c : Char) : Bool := c = '+' || c = '-'

/-- A numeral by its first character: a letter of an exponent takes a sign along. -/
theorem numeralLength_cons (hex : Bool) (c : Char) (rest : Text) :
    numeralLength hex (c :: rest) =
      if isExponentMark hex c then
        if rest.head?.any isSign then numeralLength hex (rest.drop 1) + 2
        else numeralLength hex rest + 1
      else if isNumeralPart hex c then numeralLength hex rest + 1
      else 0 := by
  cases rest with
  | nil => cases hmark : isExponentMark hex c <;> simp [numeralLength, hmark]
  | cons d rest => simp [numeralLength, isSign]

/-- A numeral lies inside the text in which it is found. -/
theorem numeralLength_le (hex : Bool) (text : Text) : numeralLength hex text ≤ text.length := by
  fun_induction numeralLength hex text <;> simp only [List.length_cons, List.length_nil] at * <;>
    omega

/-- A numeral that ends before the end of a text is not changed by what follows. -/
theorem numeralLength_append {hex : Bool} (hends : numeralLength hex rest < rest.length) :
    numeralLength hex (rest ++ next) = numeralLength hex rest := by
  fun_induction numeralLength hex rest with
  | case1 => simp at hends
  | case2 c hpart => simp at hends
  | case3 c hpart =>
    simp only [Bool.or_eq_true, not_or] at hpart
    cases next <;> simp [numeralLength, hpart]
  | case4 c d rest hmark hsign ih =>
    simp only [List.length_cons] at hends
    simp only [List.cons_append, numeralLength, hmark, hsign, if_true, ih (by omega)]
  | case5 c d rest hmark hsign ih =>
    simp only [List.length_cons] at hends ih
    simp only [List.cons_append] at ih ⊢
    rw [numeralLength, if_pos hmark, if_neg hsign, ih (by omega)]
  | case6 c d rest hmark hpart ih =>
    simp only [List.length_cons] at hends ih
    simp only [List.cons_append] at ih ⊢
    rw [numeralLength, if_neg hmark, if_pos hpart, ih (by omega)]
  | case7 c d rest hmark hpart =>
    simp only [List.cons_append]
    rw [numeralLength, if_neg hmark, if_neg hpart]

/-- A text without line feed that a longer text starts with lies in front of every break. -/
theorem isPrefixOf_append_break {front text : Text} (hfront : '\n' ∉ front) :
    front.isPrefixOf (text ++ '\n' :: next) = front.isPrefixOf text := by
  induction front generalizing text with
  | nil => simp
  | cons first front ih =>
    simp only [List.mem_cons, not_or] at hfront
    cases text with
    | nil => simp [List.isPrefixOf, Ne.symm hfront.1]
    | cons head text => simp [List.isPrefixOf, ih hfront.2]

/-- No operator goes across a break. -/
theorem operatorAt?_append_break (text : Text) :
    operatorAt? (text ++ '\n' :: next) = operatorAt? text := by
  have hplain : ∀ op ∈ operators, '\n' ∉ op := by decide
  unfold operatorAt?
  generalize operators = table at hplain
  induction table with
  | nil => rfl
  | cons op table ih =>
    rw [List.forall_mem_cons] at hplain
    rw [List.find?_cons, List.find?_cons, isPrefixOf_append_break hplain.1, ih hplain.2]

end LuaAssist.Lexer

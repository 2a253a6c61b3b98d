import LuaAssist.Proofs.Token.Words
import LuaAssist.Signature

/-!
# The code of a line

The code of a line that is read on its own is what stands in front of its first comment. The code
is followed by nothing or by the two dashes of that comment. With something else behind it that
has no dash in it, the code starts no comment either.
-/

namespace LuaAssist

namespace Lexer

variable {c : Char} {rest : Text}

/-- The reading of a token of any kind, in a front of a line. -/
theorem read_cutOff_any (memory : Memory) (c : Char) {front line : Text} (hpre : front <+: line) :
    CutOff front (read memory c front) (read memory c line) := by
  cases hc : isNameStart c with
  | true =>
    rw [read_of_isNameStart memory hc, read_of_isNameStart memory hc]
    exact .of_takeWhile isNamePart _ _ hpre
  | false => exact read_cutOff memory hc hpre

/-- The category of a long token is that of its form. -/
theorem kind_readLong (form : LongForm) (level skip : Nat) (rest : Text) :
    (readLong form level skip rest).kind = form.kind := by
  unfold readLong
  split <;> rfl

/-- Comments are the tokens that begin with two dashes. -/
theorem isComment_read (memory : Memory) (c : Char) (rest : Text) :
    (read memory c rest).kind.isComment = true ↔ c = '-' ∧ rest.head? = some '-' := by
  by_cases hdashes : c = '-' ∧ rest.head? = some '-'
  · obtain ⟨rfl, hhead⟩ := hdashes
    rw [read_of_dashes memory hhead]
    refine iff_of_true ?_ ⟨rfl, hhead⟩
    unfold readComment
    split
    · split
      · rw [kind_readLong]
        rfl
      · rfl
    · rfl
  · refine iff_of_false ?_ hdashes
    unfold read
    split
    · exact Bool.false_ne_true
    rw [if_neg (by simpa using hdashes)]
    split
    · rw [kind_readLong]
      exact Bool.false_ne_true
    split
    · exact Bool.false_ne_true
    split
    · split <;> exact Bool.false_ne_true
    split
    · have hname := nameKind_mem memory (c :: rest.takeWhile isNamePart)
      simp only [Reading.closed]
      generalize memory.nameKind (c :: rest.takeWhile isNamePart) = kind at hname
      revert kind
      decide
    split <;> exact Bool.false_ne_true

end Lexer

namespace Signature

open Lexer (tokensFrom read moreOf Memory)

variable {c : Char} {rest line : Text}

/-- Where the first comment stands does not depend on what is remembered. -/
theorem beforeComment_memory (memory : Memory) (state : LineState) (text : Text) :
    (tokensFrom memory state text).beforeComment = codeOf text := by
  have hplain : ∀ tokens : List Token,
      ((tokens.takeWhile fun token => !token.kind.isComment).map Token.text).flatten =
        (((tokens.map Token.unrefined).takeWhile fun token => !token.kind.isComment).map
          Token.text).flatten := by
    intro tokens
    have hkind : (fun token : Token => !token.unrefined.kind.isComment) =
        fun token => !token.kind.isComment := by
      funext ⟨kind, text⟩
      cases kind <;> rfl
    rw [List.takeWhile_map, List.map_map]
    exact congrArg (fun test => ((tokens.takeWhile test).map Token.text).flatten) hkind.symm
  have hstart : (tokensFrom memory .code text).beforeComment = codeOf text := by
    unfold codeOf Lexer.scan LineScan.beforeComment
    rw [hplain, (Lexer.tokensFrom_memory memory .start .code text).2, ← hplain]
  rw [← hstart]
  cases text with
  | nil =>
    simp only [tokensFrom]
    rfl
  | cons c rest => simp only [tokensFrom]

/-- An empty line has no code. -/
@[simp] theorem codeOf_nil : codeOf [] = [] := by
  rw [← beforeComment_memory .start .code]
  simp [tokensFrom, LineScan.beforeComment, TokenKind.isComment]

/-- No code stands in front of a comment that comes first. -/
theorem codeOf_comment (rest : Text) : codeOf ('-' :: '-' :: rest) = [] := by
  have hkind := (Lexer.isComment_read .start '-' ('-' :: rest)).mpr ⟨rfl, rfl⟩
  rw [← beforeComment_memory .start .code, tokensFrom, LineScan.beforeComment,
    List.takeWhile_cons_of_neg (by simpa using hkind)]
  rfl

/-- The code begins with the first token of a line, unless that is a comment. -/
theorem codeOf_cons (hcode : ¬(c = '-' ∧ rest.head? = some '-')) :
    codeOf (c :: rest) = c :: rest.take (moreOf c rest) ++ codeOf (rest.drop (moreOf c rest)) := by
  have hkind := mt (Lexer.isComment_read .start c rest).mp hcode
  rw [← beforeComment_memory .start .code, tokensFrom, LineScan.beforeComment,
    List.takeWhile_cons_of_pos (by simpa using hkind), List.map_cons, List.flatten_cons,
    ← LineScan.beforeComment, beforeComment_memory]
  rfl

/-- What follows the code of a line is nothing or its first comment. -/
theorem exists_behind_codeOf (line : Text) :
    ∃ behind, line = codeOf line ++ behind ∧
      (behind = [] ∨ ∃ rest, behind = '-' :: '-' :: rest) := by
  induction hlength : line.length using Nat.strongRecOn generalizing line with
  | ind length ih =>
    subst hlength
    match line with
    | [] => exact ⟨[], by simp, Or.inl rfl⟩
    | c :: rest =>
      by_cases hcomment : c = '-' ∧ rest.head? = some '-'
      · obtain ⟨rfl, hhead⟩ := hcomment
        obtain ⟨body, rfl⟩ := List.head?_eq_some_iff.mp hhead
        exact ⟨_, by rw [codeOf_comment]; rfl, Or.inr ⟨body, rfl⟩⟩
      · obtain ⟨behind, hrest, hbehind⟩ := ih _
          (by simp only [List.length_drop, List.length_cons]; omega)
          (rest.drop (moreOf c rest)) rfl
        refine ⟨behind, ?_, hbehind⟩
        rw [codeOf_cons hcomment, List.append_assoc, ← hrest, List.cons_append,
          List.take_append_drop]

/-- A text without dashes is code. -/
theorem codeOf_of_dashless (hline : '-' ∉ line) : codeOf line = line := by
  obtain ⟨behind, hsplit, rfl | ⟨rest, rfl⟩⟩ := exists_behind_codeOf line
  · rw [List.append_nil] at hsplit
    exact hsplit.symm
  · rw [hsplit] at hline
    simp at hline

/-- With something else behind it than the first comment, the code starts no comment. -/
theorem codeOf_append {code behind : Text} (rest : Text)
    (hcode : codeOf (code ++ '-' :: '-' :: rest) = code) (hbehind : '-' ∉ behind) :
    codeOf (code ++ behind) = code ++ behind := by
  induction hlength : code.length using Nat.strongRecOn generalizing code with
  | ind length ih =>
    subst hlength
    match code with
    | [] => exact codeOf_of_dashless hbehind
    | c :: front =>
      have hfirst : ¬(c = '-' ∧ (front ++ '-' :: '-' :: rest).head? = some '-') := by
        rintro ⟨rfl, hhead⟩
        obtain ⟨body, hbody⟩ := List.head?_eq_some_iff.mp hhead
        rw [List.cons_append, hbody, codeOf_comment] at hcode
        cases hcode
      have hother : ¬(c = '-' ∧ (front ++ behind).head? = some '-') := by
        rintro ⟨rfl, hhead⟩
        cases front with
        | nil => exact hfirst ⟨rfl, rfl⟩
        | cons d front => exact hfirst ⟨rfl, hhead⟩
      -- The first token ends in the code, in which it is read the same.
      rw [List.cons_append, codeOf_cons hfirst] at hcode
      have hinside : moreOf c (front ++ '-' :: '-' :: rest) ≤ front.length := by
        have hlength := congrArg List.length hcode
        have hmore := Lexer.read_more_le .start c (front ++ '-' :: '-' :: rest)
        simp only [List.length_append, List.length_cons, List.length_take] at hlength
        simp only [moreOf, List.length_append, List.length_cons] at hlength hmore ⊢
        omega
      have hmore : moreOf c front = moreOf c (front ++ '-' :: '-' :: rest) := by
        cases Lexer.read_cutOff_any .start c (List.prefix_append front ('-' :: '-' :: rest)) with
        | same _ hmore => exact hmore
        | covers hbeyond => exact absurd hinside (Nat.not_le_of_lt hbeyond)
        | fragment hbeyond => exact absurd hinside (Nat.not_le_of_lt hbeyond)
      rw [← hmore] at hcode hinside
      rw [List.take_append_of_le_length hinside, List.drop_append_of_le_length hinside] at hcode
      have hrest : codeOf (front.drop (moreOf c front) ++ '-' :: '-' :: rest) =
          front.drop (moreOf c front) := by
        refine (List.append_right_inj (c :: front.take (moreOf c front))).mp ?_
        rw [hcode, List.cons_append, List.take_append_drop]
      rw [List.cons_append, codeOf_cons hother]
      by_cases hbeyond : front.length < moreOf c (front ++ behind)
      · -- The token takes some of what follows, and leaves no dash.
        have hdrop : '-' ∉ (front ++ behind).drop (moreOf c (front ++ behind)) := by
          rw [List.drop_append, List.drop_eq_nil_of_le (Nat.le_of_lt hbeyond), List.nil_append]
          exact fun hmem => hbehind (List.mem_of_mem_drop hmem)
        rw [codeOf_of_dashless hdrop, List.cons_append, List.take_append_drop]
      · have hsame : moreOf c (front ++ behind) = moreOf c front := by
          cases Lexer.read_cutOff_any .start c (List.prefix_append front behind) with
          | same _ hmore => exact hmore.symm
          | covers hlonger => exact absurd hlonger hbeyond
          | fragment hlonger => exact absurd hlonger hbeyond
        rw [hsame, List.take_append_of_le_length hinside, List.drop_append_of_le_length hinside,
          ih _ (by simp only [List.length_drop, List.length_cons]; omega) hrest rfl,
          List.cons_append, ← List.append_assoc, List.take_append_drop]

end Signature

end LuaAssist

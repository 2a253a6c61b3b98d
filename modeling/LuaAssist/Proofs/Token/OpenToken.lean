import LuaAssist.Proofs.Token.LineBreak

/-!
# The token that is open at a line break

A token either ends before a break, and then it is the same whatever follows, or it is a long
token that is open there and takes in the break and what follows up to its closing bracket.
-/

namespace LuaAssist.Lexer

variable {memory : Memory} {c : Char} {rest next : Text} {level : Nat}

/-- A long token that has read some characters in front of a break and goes on behind it. -/
def reopened (form : LongForm) (level before : Nat) (next : Text) : Reading :=
  match longClose? level next with
  | some length => .closed form.kind (before + 1 + length)
  | none => ⟨form.kind, before + 1 + next.length, form.state level⟩

/-- The reading of a token from a text of some length, beside its reading from the text with a
break and more behind it. -/
inductive Continues (length : Nat) (next : Text) : Reading → Reading → Prop where
  /-- A token that leaves nothing open stays as it is if it ends inside the text. -/
  | ends {reading longer : Reading} (hclosed : reading.state = .code)
      (hsame : reading.more < length → longer = reading) : Continues length next reading longer
  /-- A long token that is open at the break goes on behind it. -/
  | goesOn {form : LongForm} (hform : form = .string ∨ form = .comment) (level : Nat) :
      Continues length next ⟨form.kind, length, form.state level⟩
        (reopened form level length next)

/-- A long form leaves something open. -/
theorem LongForm.state_ne_code {form : LongForm} (hform : form = .string ∨ form = .comment)
    (level : Nat) : form.state level ≠ .code := by
  rcases hform with rfl | rfl <;> exact LineState.noConfusion

/-- What is open tells the long form and the level. -/
theorem LongForm.state_inj {form other : LongForm} (hform : form = .string ∨ form = .comment)
    (hother : other = .string ∨ other = .comment) {level level' : Nat}
    (hstate : form.state level = other.state level') : form = other ∧ level = level' := by
  rcases hform with rfl | rfl <;> rcases hother with rfl | rfl <;> cases hstate
  · exact ⟨rfl, rfl⟩
  · exact ⟨rfl, rfl⟩

/-- A token that ends inside the text in front of a break is read the same. -/
theorem Continues.eq_of_lt {length : Nat} {reading longer : Reading}
    (hcontinues : Continues length next reading longer) (hclosed : reading.state = .code)
    (hlt : reading.more < length) : longer = reading := by
  cases hcontinues with
  | ends _ hsame => exact hsame hlt
  | goesOn hform level => exact absurd hclosed (LongForm.state_ne_code hform level)

/-- A token that leaves something open is a long token up to the break. -/
theorem Continues.exists_form {length : Nat} {reading longer : Reading}
    (hcontinues : Continues length next reading longer) (hopen : reading.state ≠ .code) :
    ∃ form, (form = LongForm.string ∨ form = LongForm.comment) ∧
      ∃ level, reading = ⟨form.kind, length, form.state level⟩ := by
  cases hcontinues with
  | ends hclosed _ => exact absurd hclosed hopen
  | goesOn hform level => exact ⟨_, hform, level, rfl⟩

/-- A long token that is open at a break goes on behind it. -/
theorem Continues.eq_reopened {length : Nat} {reading longer : Reading} {form : LongForm}
    (hcontinues : Continues length next reading longer)
    (hform : form = .string ∨ form = .comment) (hstate : reading.state = form.state level) :
    longer = reopened form level length next := by
  cases hcontinues with
  | ends hclosed _ =>
    rw [hclosed] at hstate
    exact absurd hstate.symm (LongForm.state_ne_code hform level)
  | goesOn hother level' =>
    obtain ⟨rfl, rfl⟩ := LongForm.state_inj hother hform hstate
    rfl

/-- A long token over a break, of which the opening bracket lies in front. -/
theorem readLong_continues {form : LongForm} (hform : form = .string ∨ form = .comment)
    {skip : Nat} (hskip : skip ≤ rest.length) :
    Continues rest.length next (readLong form level skip rest)
      (readLong form level skip (rest ++ '\n' :: next)) := by
  have hdrop : (rest ++ '\n' :: next).drop skip = rest.drop skip ++ '\n' :: next :=
    List.drop_append_of_le_length hskip
  cases hclose : longClose? level (rest.drop skip) with
  | some length =>
    have hread : readLong form level skip rest = .closed form.kind (skip + length) := by
      rw [readLong, hclose]
    have hlonger : readLong form level skip (rest ++ '\n' :: next) =
        .closed form.kind (skip + length) := by
      rw [readLong, hdrop, longClose?_append hclose]
    rw [hread, hlonger]
    exact .ends rfl fun _ => rfl
  | none =>
    have hread : readLong form level skip rest =
        ⟨form.kind, rest.length, form.state level⟩ := by
      rw [readLong, hclose]
    have hlonger : readLong form level skip (rest ++ '\n' :: next) =
        reopened form level rest.length next := by
      rw [readLong, hdrop, longClose?_append_break hclose, reopened]
      cases longClose? level next with
      | some length =>
        simp only [Option.map_some, List.length_drop]
        congr 1
        omega
      | none =>
        simp only [Option.map_none, List.length_append, List.length_cons]
        congr 1
        omega
    rw [hread, hlonger]
    exact .goesOn hform level

/-- A long bracket ends behind its level. -/
theorem lt_of_longOpen? (hopen : longOpen? rest = some level) : level < rest.length := by
  rw [longOpen?_eq] at hopen
  split at hopen
  · rename_i hhead
    obtain ⟨behind, hbehind⟩ := List.head?_eq_some_iff.mp hhead
    cases hopen
    have hsplit := congrArg List.length
      (List.takeWhile_append_dropWhile (p := (· = '=')) (l := rest))
    rw [List.length_append, hbehind, List.length_cons] at hsplit
    omega
  · cases hopen

/-- A long bracket starts a long string. -/
theorem read_of_longOpen? (memory : Memory) (hopen : longOpen? rest = some level) :
    read memory '[' rest = readLong .string level (level + 1) rest := by
  simp [read, isSpace, hopen]

/-- Two dashes start a comment. -/
theorem read_of_dashes (memory : Memory) (hdash : rest.head? = some '-') :
    read memory '-' rest = readComment rest := by
  simp [read, isSpace, hdash]

/-- Two dashes and a long bracket start a long comment. -/
theorem readComment_of_longOpen? (hopen : longOpen? rest = some level) :
    readComment ('-' :: '[' :: rest) =
      readLong .comment level (level + 3) ('-' :: '[' :: rest) := by
  simp only [readComment, List.drop_succ_cons, List.drop_zero, hopen]

/-- Without a long bracket behind them, two dashes start a comment up to the end of the line. -/
theorem readComment_line (hopen : ∀ body, rest = '[' :: body → longOpen? body = none) :
    readComment ('-' :: rest) = .closed .comment ('-' :: rest).length := by
  unfold readComment
  split
  · rename_i body hbody
    rw [hopen body hbody]
  · rfl

/-- A comment over a break. -/
theorem readComment_continues (hdash : rest.head? = some '-') :
    Continues rest.length next (readComment rest) (readComment (rest ++ '\n' :: next)) := by
  obtain ⟨tail, rfl⟩ := List.head?_eq_some_iff.mp hdash
  by_cases hlong : ∃ body level, tail = '[' :: body ∧ longOpen? body = some level
  · obtain ⟨body, level, rfl, hopen⟩ := hlong
    have hlonger : longOpen? (body ++ '\n' :: next) = some level := by
      rw [longOpen?_append_break, hopen]
    rw [readComment_of_longOpen? hopen, List.cons_append, List.cons_append,
      readComment_of_longOpen? hlonger]
    have hlevel := lt_of_longOpen? hopen
    have hskip : level + 3 ≤ ('-' :: '[' :: body).length := by
      simp only [List.length_cons]
      omega
    exact readLong_continues (Or.inr rfl) hskip
  · have hopen : ∀ body, tail = '[' :: body → longOpen? body = none := by
      intro body hbody
      by_contra hne
      obtain ⟨level, hlevel⟩ := Option.ne_none_iff_exists'.mp hne
      exact hlong ⟨body, level, hbody, hlevel⟩
    rw [readComment_line hopen]
    exact .ends rfl fun hlt => absurd hlt (Nat.lt_irrefl _)

/-- A numeral over a break. -/
theorem numeral_continues {hex : Bool} {skip : Nat} (hskip : skip ≤ rest.length) :
    Continues rest.length next
      (.closed .number (numeralLength hex (rest.drop skip) + skip))
      (.closed .number (numeralLength hex ((rest ++ '\n' :: next).drop skip) + skip)) := by
  refine .ends rfl fun hlt => ?_
  have hends : numeralLength hex (rest.drop skip) < (rest.drop skip).length := by
    rw [List.length_drop]
    simp only [Reading.closed] at hlt
    omega
  rw [List.drop_append_of_le_length hskip, numeralLength_append hends]

/-- A token over a break. -/
theorem read_continues :
    Continues rest.length next (read memory c rest) (read memory c (rest ++ '\n' :: next)) := by
  have hdash := (head?_append_break (by decide : '-' ≠ '\n') :
    (rest ++ '\n' :: next).head? = some '-' ↔ _)
  have hdigit : (rest ++ '\n' :: next).head?.any Char.isDigit = rest.head?.any Char.isDigit :=
    any_head?_append_break _ rfl
  have hhex : (rest ++ '\n' :: next).head?.any (fun x => x = 'x' || x = 'X') =
      rest.head?.any (fun x => x = 'x' || x = 'X') := any_head?_append_break _ rfl
  unfold read
  simp only [hdash, hdigit, hhex, longOpen?_append_break]
  by_cases hspace : isSpace c = true
  · simp only [hspace, if_true]
    refine .ends rfl fun hlt => ?_
    rw [takeWhile_append_of_lt hlt]
  rw [if_neg hspace, if_neg hspace]
  by_cases hcomment : (decide (c = '-') && decide (rest.head? = some '-')) = true
  · rw [if_pos hcomment, if_pos hcomment]
    simp only [Bool.and_eq_true, decide_eq_true_eq] at hcomment
    exact readComment_continues hcomment.2
  rw [if_neg hcomment, if_neg hcomment]
  cases hlong : (if c = '[' then longOpen? rest else none) with
  | some level =>
    split at hlong
    · exact readLong_continues (Or.inl rfl) (lt_of_longOpen? hlong)
    · cases hlong
  | none =>
    dsimp only
    split
    · refine .ends rfl fun hlt => ?_
      rw [quotedLength_append hlt]
    split
    · split
      · rename_i hhex
        have hne : rest ≠ [] := by
          rintro rfl
          simp at hhex
        exact numeral_continues (List.length_pos_iff.mpr hne)
      · exact numeral_continues (Nat.zero_le _)
    split
    · refine .ends rfl fun hlt => ?_
      rw [takeWhile_append_of_lt hlt]
    rw [← List.cons_append, operatorAt?_append_break]
    split
    · exact .ends rfl fun _ => rfl
    · exact .ends rfl fun _ => rfl

end LuaAssist.Lexer

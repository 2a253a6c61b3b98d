import LuaAssist.Document

/-!
# The lines of a document, one character at a time

The offset of a position is told here by the lines of the document from the first on, and the
lines of a document by its first character. The lines with their breaks are the document.
-/

namespace LuaAssist.Document

variable {c : Char} {rest : Text}

/-! ## Lines -/

/-- A character that ends no line is neither a line feed nor a carriage return. -/
theorem not_feed_or_return (hplain : isBreak c = false) : ¬(c = '\n' ∨ c = '\r') := by
  rintro (rfl | rfl) <;> cases hplain

/-- A character that ends no line joins a first line. -/
theorem consLine_cons {line : Text} {lines : List Text} (hplain : isBreak c = false) :
    consLine c (line :: lines) = (c :: line) :: lines :=
  if_neg (by simp [hplain])

/-- A character that ends no line joins the first of the lines that follow. -/
theorem rawLines_cons (hplain : isBreak c = false) :
    rawLines (c :: rest) = consLine c (rawLines rest) := by
  cases rest with
  | nil => rfl
  | cons d rest =>
    have hpair : ¬(c = '\r' && d = '\n') = true := by
      intro hpair
      simp only [Bool.and_eq_true, decide_eq_true_eq] at hpair
      rw [hpair.1] at hplain
      cases hplain
    rw [rawLines, if_neg hpair]

/-- A break is a line of its own, unless it is the first half of a break of two characters. -/
theorem rawLines_break (hbreak : isBreak c = true) (halone : c = '\r' → rest.head? ≠ some '\n') :
    rawLines (c :: rest) = [c] :: rawLines rest := by
  cases rest with
  | nil => simp [rawLines, consLine, hbreak]
  | cons d rest =>
    have hpair : ¬(c = '\r' && d = '\n') = true := by
      intro hpair
      simp only [Bool.and_eq_true, decide_eq_true_eq] at hpair
      exact halone hpair.1 (congrArg some hpair.2)
    rw [rawLines, if_neg hpair]
    exact if_pos hbreak

/-- A carriage return and a line feed are one break. -/
theorem rawLines_pair : rawLines ('\r' :: '\n' :: rest) = ['\r', '\n'] :: rawLines rest := rfl

/-- The first character of a document, for an induction on the document: a break of two
characters, a break of one, or a character of the first line. -/
@[elab_as_elim]
theorem breaks_induction {motive : Text → Prop} (nil : motive [])
    (pair : ∀ rest, motive rest → motive ('\r' :: '\n' :: rest))
    (alone : ∀ c rest, isBreak c = true → (c = '\r' → rest.head? ≠ some '\n') → motive rest →
      motive (c :: rest))
    (plain : ∀ c rest, isBreak c = false → motive rest → motive (c :: rest)) (text : Text) :
    motive text := by
  have single : ∀ c rest, (c = '\r' → rest.head? ≠ some '\n') → motive rest →
      motive (c :: rest) := by
    intro c rest hhead hrest
    cases hbreak : isBreak c with
    | true => exact alone c rest hbreak hhead hrest
    | false => exact plain c rest hbreak hrest
  fun_induction rawLines text with
  | case1 => exact nil
  | case2 c => exact single c [] (fun _ => by simp) nil
  | case3 c d rest hpair ih =>
    simp only [Bool.and_eq_true, decide_eq_true_eq] at hpair
    obtain ⟨rfl, rfl⟩ := hpair
    exact pair rest ih
  | case4 c d rest hpair ih =>
    simp only [Bool.and_eq_true, decide_eq_true_eq] at hpair
    exact single c (d :: rest) (fun hreturn hfeed => hpair ⟨hreturn, Option.some.inj hfeed⟩) ih

/-- There is a first line. -/
theorem exists_rawLines_eq (text : Text) : ∃ line lines, rawLines text = line :: lines := by
  induction text using breaks_induction with
  | nil => exact ⟨_, _, rfl⟩
  | pair rest ih => exact ⟨_, _, rawLines_pair⟩
  | alone c rest hbreak halone ih => exact ⟨_, _, rawLines_break hbreak halone⟩
  | plain c rest hplain ih =>
    obtain ⟨line, lines, heq⟩ := ih
    exact ⟨c :: line, lines, by rw [rawLines_cons hplain, heq, consLine_cons hplain]⟩

/-- The lines with their breaks are the document. -/
theorem flatten_rawLines (text : Text) : (rawLines text).flatten = text := by
  induction text using breaks_induction with
  | nil => rfl
  | pair rest ih => rw [rawLines_pair, List.flatten_cons, ih]; rfl
  | alone c rest hbreak halone ih => rw [rawLines_break hbreak halone, List.flatten_cons, ih]; rfl
  | plain c rest hplain ih =>
    obtain ⟨line, lines, heq⟩ := exists_rawLines_eq rest
    rw [rawLines_cons hplain, heq, consLine_cons hplain, List.flatten_cons, List.cons_append,
      ← List.flatten_cons, ← heq, ih]

/-- What stands above a line is made of the lines above it. -/
theorem take_lineStart (text : Text) (number : Nat) :
    text.take (lineStart text number) = ((rawLines text).take number).flatten := by
  have hwhole : ((rawLines text).take number).flatten ++ ((rawLines text).drop number).flatten =
      text := by
    rw [← List.flatten_append, List.take_append_drop, flatten_rawLines]
  calc text.take (lineStart text number)
      = (((rawLines text).take number).flatten ++ ((rawLines text).drop number).flatten).take
          (lineStart text number) := by rw [hwhole]
    _ = ((rawLines text).take number).flatten := List.take_left

/-- Every offset lies on one of the lines. -/
theorem lineOf_lt (text : Text) (offset : Nat) : lineOf text offset < lineCount text := by
  have hamong : ∀ lines : List Text, lines ≠ [] → lineAmong lines offset < lines.length := by
    intro lines hlines
    fun_induction lineAmong lines offset with
    | case1 => exact absurd rfl hlines
    | case2 => exact Nat.one_pos
    | case3 line next lines offset hinside => exact Nat.succ_pos _
    | case4 line next lines offset hbeyond ih => exact Nat.succ_lt_succ (ih (List.cons_ne_nil _ _))
  obtain ⟨line, lines, hlines⟩ := exists_rawLines_eq text
  exact hamong _ (by simp [hlines])

/-- A character that ends no line stays in front of its line. -/
theorem dropLineFeed_cons {line : Text} (hplain : isBreak c = false) :
    dropLineFeed (c :: line) = c :: dropLineFeed line := by
  obtain ⟨hfeed, hreturn⟩ := not_or.mp (not_feed_or_return hplain)
  -- What is dropped is among the last two characters, and `c` is neither a feed nor a return.
  obtain ⟨front, rfl⟩ : ∃ front, line = front.reverse := ⟨line.reverse, by simp⟩
  unfold dropLineFeed
  rw [List.reverse_cons, List.reverse_reverse]
  rcases front with _ | ⟨last, _ | ⟨second, front⟩⟩
  · simp [hfeed]
  · by_cases hlast : last = '\n' <;> simp [hlast, hreturn]
  · by_cases hlast : last = '\n'
    · by_cases hsecond : second = '\r' <;> simp [hlast, hsecond]
    · simp [hlast]

/-- A line without its line feed is a front of the line. -/
theorem prefix_dropLineFeed (line : Text) : dropLineFeed line <+: line := by
  unfold dropLineFeed
  split
  · rename_i rest hrest
    exact ⟨['\r', '\n'], by rw [← List.reverse_reverse line, hrest]; simp⟩
  · rename_i rest _ hrest
    exact ⟨['\n'], by rw [← List.reverse_reverse line, hrest]; simp⟩
  · exact List.prefix_rfl

/-! ## Offsets -/

/-- The offset of a position, told by the lines of the document. -/
def offsetAmong : List Text → Nat → Nat → Nat
  | [], _, _ => 0
  | line :: _, 0, column => charColumn (dropLineFeed line) column
  | line :: lines, number + 1, column => line.length + offsetAmong lines number column

/-- Behind the last line all positions are at the end. -/
theorem offsetAmong_of_le {lines : List Text} {number : Nat} (column : Nat)
    (hpast : lines.length ≤ number) : offsetAmong lines number column = lines.flatten.length := by
  induction lines generalizing number with
  | nil => rfl
  | cons line lines ih =>
    cases number with
    | zero => cases hpast
    | succ number =>
      rw [offsetAmong, ih (Nat.le_of_succ_le_succ hpast), List.flatten_cons, List.length_append]

/-- The offset of a position on a line is told by the lengths of the lines in front of it. -/
theorem offsetAmong_of_lt {lines : List Text} {number : Nat} (column : Nat)
    (hline : number < lines.length) :
    offsetAmong lines number column =
      (lines.take number).flatten.length +
        charColumn (dropLineFeed (lines[number]?.getD [])) column := by
  induction lines generalizing number with
  | nil => cases hline
  | cons line lines ih =>
    cases number with
    | zero => simp [offsetAmong]
    | succ number =>
      rw [offsetAmong, ih (Nat.lt_of_succ_lt_succ hline)]
      simp [Nat.add_assoc]

/-- The offset of a position is told by the lines. -/
theorem offsetOf_eq (text : Text) (position : Position) :
    offsetOf text position = offsetAmong (rawLines text) position.line position.column := by
  unfold offsetOf lineCount
  by_cases hpast : (rawLines text).length ≤ position.line
  · rw [if_pos hpast, offsetAmong_of_le _ hpast, flatten_rawLines]
  · rw [if_neg hpast, offsetAmong_of_lt _ (Nat.lt_of_not_le hpast)]
    rfl

end LuaAssist.Document

import LuaAssist.Proofs.Document.Edits

/-!
# Offsets as positions and back

The position of an offset leads back to the offset, unless the offset lies between a carriage
return and the line feed behind it: there no position leads.
-/

namespace LuaAssist.Document

variable {c : Char} {text rest : Text} {lines : List Text} {line : Text} {offset : Nat}

/-- Behind the units of a front of a line columns go on in the rest. -/
theorem charColumn_append (front rest : Text) (units : Nat) :
    charColumn (front ++ rest) (Text.utf16Length front + units) =
      front.length + charColumn rest units := by
  induction front with
  | nil => simp [Text.utf16Length]
  | cons c front ih =>
    have hwidth := Text.utf16Width_pos c
    rw [List.cons_append, Text.utf16Length, charColumn, if_neg (by omega), Nat.add_assoc,
      Nat.add_sub_cancel_left, ih, List.length_cons]
    omega

/-- A column in characters is found again from its UTF-16 units. -/
theorem charColumn_utf16Length {column : Nat} (hcolumn : column ≤ line.length) :
    charColumn line (Text.utf16Length (line.take column)) = column := by
  have hback := charColumn_append (line.take column) (line.drop column) 0
  rw [List.take_append_drop, Nat.add_zero, charColumn_zero, List.length_take] at hback
  omega

/-- An offset among the characters of a line that are left when its line feed is dropped, or
directly behind them. -/
inductive OnLine : List Text → Nat → Prop where
  | first {line : Text} {lines : List Text} {column : Nat}
      (hcolumn : column ≤ (dropLineFeed line).length) : OnLine (line :: lines) column
  | later {line : Text} {lines : List Text} {offset : Nat} (hlater : OnLine lines offset) :
      OnLine (line :: lines) (line.length + offset)

/-- An offset on a line is found again by the number of the line that contains it and the column
there. -/
theorem offsetAmong_lineAmong (hoffset : OnLine lines offset) :
    offsetAmong lines (lineAmong lines offset)
      (Text.utf16Length ((dropLineFeed (lines[lineAmong lines offset]?.getD [])).take
        (offset - (lines.take (lineAmong lines offset)).flatten.length))) = offset := by
  fun_induction lineAmong lines offset with
  | case1 => cases hoffset
  | case2 offset line =>
    cases hoffset with
    | first hcolumn => simpa [offsetAmong] using charColumn_utf16Length hcolumn
    | later hlater => cases hlater
  | case3 line next lines offset hlt =>
    cases hoffset with
    | first hcolumn => simpa [offsetAmong] using charColumn_utf16Length hcolumn
    | later hlater => omega
  | case4 line next lines offset hge ih =>
    have hlater : OnLine (next :: lines) (offset - line.length) := by
      cases hoffset with
      | first hcolumn =>
        have hdrop := length_dropLineFeed_le line
        rw [show offset - line.length = 0 by omega]
        exact .first (Nat.zero_le _)
      | later hlater => rwa [Nat.add_sub_cancel_left]
    have hnext := ih hlater
    rw [List.getElem?_cons_succ, List.take_succ_cons, List.flatten_cons, List.length_append,
      offsetAmong, ← Nat.sub_sub, hnext]
    omega

/-- The offset lies between a carriage return and a line feed. -/
def SplitsReturn (text : Text) (offset : Nat) : Prop :=
  ∃ front rest, text = front ++ '\r' :: '\n' :: rest ∧ offset = front.length + 1

/-- The start of a document splits nothing. -/
theorem not_splitsReturn_zero (text : Text) : ¬SplitsReturn text 0 := by
  rintro ⟨front, rest, _, hzero⟩
  cases hzero

/-- A later offset splits the first return of a document, or one in the rest. -/
theorem splitsReturn_succ :
    SplitsReturn (c :: rest) (offset + 1) ↔
      (offset = 0 ∧ c = '\r' ∧ rest.head? = some '\n') ∨ SplitsReturn rest offset := by
  constructor
  · rintro ⟨front, behind, heq, hlength⟩
    cases front with
    | nil =>
      obtain ⟨rfl, rfl⟩ := List.cons.inj heq
      exact Or.inl ⟨Nat.succ.inj hlength, rfl, rfl⟩
    | cons first front =>
      obtain ⟨rfl, rfl⟩ := List.cons.inj heq
      exact Or.inr ⟨front, behind, rfl, Nat.succ.inj hlength⟩
  · rintro (⟨rfl, rfl, hhead⟩ | ⟨front, behind, rfl, rfl⟩)
    · obtain ⟨tail, rfl⟩ := List.head?_eq_some_iff.mp hhead
      exact ⟨[], tail, rfl, rfl⟩
    · exact ⟨c :: front, behind, rfl, rfl⟩

/-- All other offsets lie on a line. -/
theorem onLine_of_not_splitsReturn (hle : offset ≤ text.length)
    (hsplits : ¬SplitsReturn text offset) : OnLine (rawLines text) offset := by
  induction text using breaks_induction generalizing offset with
  | nil =>
    rw [List.length_nil] at hle
    rw [Nat.le_zero.mp hle]
    exact .first (Nat.zero_le _)
  | pair rest ih =>
    rw [rawLines_pair]
    match offset with
    | 0 => exact .first (Nat.zero_le _)
    | 1 => exact absurd (splitsReturn_succ.mpr (Or.inl ⟨rfl, rfl, rfl⟩)) hsplits
    | offset + 2 =>
      rw [Nat.add_comm]
      exact .later (ih (by simpa using hle) fun hrest =>
        hsplits (splitsReturn_succ.mpr (Or.inr (splitsReturn_succ.mpr (Or.inr hrest)))))
  | alone c rest hbreak halone ih =>
    rw [rawLines_break hbreak halone]
    cases offset with
    | zero => exact .first (Nat.zero_le _)
    | succ offset =>
      rw [Nat.add_comm]
      exact .later (ih (by simpa using hle) fun hrest =>
        hsplits (splitsReturn_succ.mpr (Or.inr hrest)))
  | plain c rest hplain ih =>
    obtain ⟨line, lines, hlines⟩ := exists_rawLines_eq rest
    rw [rawLines_cons hplain, hlines, consLine_cons hplain]
    cases offset with
    | zero => exact .first (Nat.zero_le _)
    | succ offset =>
      have hrest := ih (by simpa using hle) fun hrest =>
        hsplits (splitsReturn_succ.mpr (Or.inr hrest))
      rw [hlines] at hrest
      cases hrest with
      | first hcolumn =>
        refine .first ?_
        rw [dropLineFeed_cons hplain, List.length_cons]
        exact Nat.succ_le_succ hcolumn
      | @later _ _ offset hlater =>
        rw [Nat.add_right_comm]
        exact .later hlater

/-- The position of an offset leads back to it, unless it splits a return. -/
theorem offsetOf_positionOf (hle : offset ≤ text.length) (hsplits : ¬SplitsReturn text offset) :
    offsetOf text (positionOf text offset) = offset := by
  have hoffset := onLine_of_not_splitsReturn hle hsplits
  rw [offsetOf_eq]
  simp only [positionOf, lineOf, lineText, lineStart, Nat.min_eq_left hle]
  exact offsetAmong_lineAmong hoffset

/-- No position leads between a carriage return and a line feed. -/
theorem not_splitsReturn_offsetOf (text : Text) (position : Position) :
    ¬SplitsReturn text (offsetOf text position) := by
  obtain ⟨line, column⟩ := position
  induction text using breaks_induction generalizing line column with
  | nil =>
    rw [offsetOf_nil]
    exact not_splitsReturn_zero _
  | pair rest ih =>
    cases line with
    | zero =>
      rw [(offsetOf_break rawLines_pair column).1]
      exact not_splitsReturn_zero _
    | succ line =>
      rw [(offsetOf_break rawLines_pair column).2, Nat.add_comm]
      simpa [splitsReturn_succ] using ih line column
  | alone c rest hbreak halone ih =>
    -- Directly behind the break stands no line feed that belongs to it.
    have hfirst (offset : Nat) : ¬(offset = 0 ∧ c = '\r' ∧ rest.head? = some '\n') :=
      fun hpair => halone hpair.2.1 hpair.2.2
    cases line with
    | zero =>
      have hcolumn := charColumn_le (dropLineFeed [c]) column
      have hdrop := length_dropLineFeed_le [c]
      rw [(offsetOf_break (rawLines_break hbreak halone) column).1]
      generalize charColumn (dropLineFeed [c]) column = offset at hcolumn
      cases offset with
      | zero => exact not_splitsReturn_zero _
      | succ offset =>
        rw [List.length_singleton] at hdrop
        rw [show offset = 0 by omega, splitsReturn_succ]
        exact fun hsplits => hsplits.elim (hfirst 0) (not_splitsReturn_zero _)
    | succ line =>
      rw [(offsetOf_break (rawLines_break hbreak halone) column).2, Nat.add_comm,
        List.length_singleton, splitsReturn_succ]
      exact fun hsplits => hsplits.elim (hfirst _) (ih line column)
  | plain c rest hplain ih =>
    have hfirst (offset : Nat) : ¬(offset = 0 ∧ c = '\r' ∧ rest.head? = some '\n') :=
      fun hpair => not_feed_or_return hplain (Or.inr hpair.2.1)
    cases line with
    | zero =>
      rw [(offsetOf_inner hplain column).1]
      split
      · exact not_splitsReturn_zero _
      · rw [splitsReturn_succ]
        exact fun hsplits => hsplits.elim (hfirst _) (ih 0 _)
    | succ line =>
      rw [(offsetOf_inner hplain column).2, splitsReturn_succ]
      exact fun hsplits => hsplits.elim (hfirst _) (ih (line + 1) column)

end LuaAssist.Document

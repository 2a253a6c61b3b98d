import LuaAssist.Proofs.Document.Positions

/-!
# Positions and offsets agree

Reading a position as an offset keeps the order of positions. An offset read as a position and
back is the offset itself, cut at the end of the document, except between a carriage return and
its line feed: there the way back ends in front of both.
-/

namespace LuaAssist

/-- A position on the same line with a column that is not smaller, or on a later line. -/
def Position.AtOrBefore (first second : Position) : Prop :=
  first.line < second.line ∨ (first.line = second.line ∧ first.column ≤ second.column)

namespace Document

variable {c : Char} {text rest line : Text} {lines : List Text} {offset : Nat}

/-! ## The order of positions -/

/-- A further column is not in front. -/
theorem charColumn_mono (line : Text) {units more : Nat} (hle : units ≤ more) :
    charColumn line units ≤ charColumn line more := by
  induction line generalizing units more with
  | nil => exact Nat.le_refl _
  | cons c line ih =>
    rw [charColumn, charColumn]
    by_cases hzero : units = 0
    · rw [if_pos hzero]
      exact Nat.zero_le _
    · rw [if_neg hzero, if_neg (by omega)]
      exact Nat.succ_le_succ (ih (Nat.sub_le_sub_right hle _))

/-- Among given lines a later position does not lead further to the front. -/
theorem offsetAmong_mono (lines : List Text) {first second : Position}
    (hbefore : first.AtOrBefore second) :
    offsetAmong lines first.line first.column ≤ offsetAmong lines second.line second.column := by
  obtain ⟨number, column⟩ := first
  obtain ⟨later, further⟩ := second
  induction lines generalizing number later with
  | nil => exact Nat.le_refl _
  | cons line lines ih =>
    cases later with
    | zero =>
      obtain hless | ⟨rfl, hcolumn⟩ := hbefore
      · cases hless
      · exact charColumn_mono _ hcolumn
    | succ later =>
      cases number with
      | zero =>
        -- Columns of the first line end with the line, and every later line lies behind it.
        have hcolumn := charColumn_le (dropLineFeed line) column
        have hdrop := length_dropLineFeed_le line
        simp only [offsetAmong]
        omega
      | succ number =>
        have hrest : Position.AtOrBefore ⟨number, column⟩ ⟨later, further⟩ :=
          hbefore.imp Nat.lt_of_succ_lt_succ (And.imp_left Nat.succ.inj)
        exact Nat.add_le_add_left (ih number later hrest) _

/-! ## Between a return and its feed -/

/-- An offset among the lines that lies between the two characters of a break. -/
inductive InBreak : List Text → Nat → Prop where
  | first {content : Text} {lines : List Text} :
      InBreak ((content ++ ['\r', '\n']) :: lines) (content.length + 1)
  | later {line : Text} {lines : List Text} {offset : Nat} (hlater : InBreak lines offset) :
      InBreak (line :: lines) (line.length + offset)

/-- An offset that splits a return lies between the two characters of a break. -/
theorem inBreak_of_splitsReturn (hsplits : SplitsReturn text offset) :
    InBreak (rawLines text) offset := by
  induction text using breaks_induction generalizing offset with
  | nil =>
    obtain ⟨front, rest, heq, -⟩ := hsplits
    simp at heq
  | pair rest ih =>
    rw [rawLines_pair]
    match offset with
    | 0 => exact absurd hsplits (not_splitsReturn_zero _)
    | 1 => exact @InBreak.first [] _
    | offset + 2 =>
      rw [splitsReturn_succ, splitsReturn_succ] at hsplits
      have hrest : SplitsReturn rest offset := by simpa using hsplits
      rw [Nat.add_comm]
      exact @InBreak.later ['\r', '\n'] _ _ (ih hrest)
  | alone c rest hbreak halone ih =>
    rw [rawLines_break hbreak halone]
    cases offset with
    | zero => exact absurd hsplits (not_splitsReturn_zero _)
    | succ offset =>
      rcases splitsReturn_succ.mp hsplits with ⟨-, hreturn, hfeed⟩ | hrest
      · exact absurd hfeed (halone hreturn)
      · rw [Nat.add_comm]
        exact @InBreak.later [c] _ _ (ih hrest)
  | plain c rest hplain ih =>
    obtain ⟨line, lines, hlines⟩ := exists_rawLines_eq rest
    rw [rawLines_cons hplain, hlines, consLine_cons hplain]
    cases offset with
    | zero => exact absurd hsplits (not_splitsReturn_zero _)
    | succ offset =>
      rcases splitsReturn_succ.mp hsplits with ⟨-, hreturn, -⟩ | hrest
      · exact absurd (Or.inr hreturn) (not_feed_or_return hplain)
      · have hinside := ih hrest
        rw [hlines] at hinside
        cases hinside with
        | @first content lines => exact @InBreak.first (c :: content) _
        | @later _ _ offset hlater =>
          rw [Nat.add_right_comm]
          exact @InBreak.later (c :: line) _ _ hlater

/-- A carriage return and a line feed at the end of a line are dropped together. -/
theorem dropLineFeed_append_pair (content : Text) :
    dropLineFeed (content ++ ['\r', '\n']) = content := by
  simp [dropLineFeed]

/-- From between the two characters of a break the way back ends in front of both. -/
theorem offsetAmong_lineAmong_inBreak (hinside : InBreak lines offset) :
    offsetAmong lines (lineAmong lines offset)
      (Text.utf16Length ((dropLineFeed (lines[lineAmong lines offset]?.getD [])).take
        (offset - (lines.take (lineAmong lines offset)).flatten.length))) + 1 = offset := by
  have hfirst (content : Text) (lines : List Text) :
      offsetAmong ((content ++ ['\r', '\n']) :: lines) 0
        (Text.utf16Length ((dropLineFeed (content ++ ['\r', '\n'])).take (content.length + 1))) =
          content.length := by
    have hwhole := charColumn_utf16Length (Nat.le_refl content.length)
    rw [List.take_length] at hwhole
    rw [offsetAmong, dropLineFeed_append_pair, List.take_of_length_le (Nat.le_succ _), hwhole]
  fun_induction lineAmong lines offset with
  | case1 => cases hinside
  | case2 offset line =>
    cases hinside with
    | first => simpa using hfirst _ []
    | later hlater => cases hlater
  | case3 line next lines offset hlt =>
    cases hinside with
    | first => simpa using hfirst _ (next :: lines)
    | later hlater => omega
  | case4 line next lines offset hge ih =>
    have hlater : InBreak (next :: lines) (offset - line.length) := by
      cases hinside with
      | first => simp at hge
      | later hlater => rwa [Nat.add_sub_cancel_left]
    have hnext := ih hlater
    rw [List.getElem?_cons_succ, List.take_succ_cons, List.flatten_cons, List.length_append,
      offsetAmong, ← Nat.sub_sub]
    omega

/-- The position of an offset that splits a return leads in front of the return. -/
theorem offsetOf_positionOf_inBreak (hsplits : SplitsReturn text offset) :
    offsetOf text (positionOf text offset) + 1 = offset := by
  have hle : offset ≤ text.length := by
    obtain ⟨front, rest, rfl, rfl⟩ := hsplits
    simp
  have hinside := inBreak_of_splitsReturn hsplits
  rw [offsetOf_eq]
  simp only [positionOf, lineOf, lineText, lineStart, Nat.min_eq_left hle]
  exact offsetAmong_lineAmong_inBreak hinside

/-- Beyond the end of a document all offsets have the position of the end. -/
theorem positionOf_min (text : Text) (offset : Nat) :
    positionOf text (min offset text.length) = positionOf text offset := by
  simp only [positionOf, Nat.min_assoc, Nat.min_self]

/-! ## The conversions -/

/-- The offset of a position grows with the position. The position of an offset leads back to the
offset, or to the end of the document if the offset lies beyond; the only exceptions are the
offsets of line feeds behind a carriage return, which lead to the return. So an offset to which a
position leads is always found again. -/
theorem conversions_agree (text : Text) :
    (∀ first second : Position, first.AtOrBefore second →
      offsetOf text first ≤ offsetOf text second) ∧
    (∀ offset, ¬SplitsReturn text offset →
      offsetOf text (positionOf text offset) = min offset text.length) ∧
    (∀ offset, SplitsReturn text offset →
      offsetOf text (positionOf text offset) + 1 = offset) ∧
    (∀ position, offsetOf text (positionOf text (offsetOf text position)) =
      offsetOf text position) := by
  refine ⟨fun first second hbefore => ?_, fun offset hsplits => ?_,
    fun offset hsplits => offsetOf_positionOf_inBreak hsplits, fun position => ?_⟩
  · rw [offsetOf_eq, offsetOf_eq]
    exact offsetAmong_mono _ hbefore
  · rcases Nat.le_total offset text.length with hinside | hbeyond
    · rw [offsetOf_positionOf hinside hsplits, Nat.min_eq_left hinside]
    · have hend : ¬SplitsReturn text text.length := by
        rintro ⟨front, rest, heq, hlength⟩
        rw [heq] at hlength
        simp at hlength
      rw [← positionOf_min, Nat.min_eq_right hbeyond]
      exact offsetOf_positionOf (Nat.le_refl _) hend
  · exact offsetOf_positionOf (offsetOf_le text position) (not_splitsReturn_offsetOf text position)

/-- A column beyond the end of its line, an offset beyond the end, an offset between a return and
its feed, and a column between the two units of a character. -/
theorem conversions_agree_pair :
    let text := "a🎉\r\nb".toList
    ((⟨0, 9⟩ : Position).AtOrBefore ⟨1, 0⟩ ∧ offsetOf text ⟨0, 9⟩ ≤ offsetOf text ⟨1, 0⟩) ∧
      (¬SplitsReturn text 9 ∧ offsetOf text (positionOf text 9) = min 9 text.length) ∧
      (SplitsReturn text 3 ∧ offsetOf text (positionOf text 3) + 1 = 3) ∧
      offsetOf text (positionOf text (offsetOf text ⟨0, 2⟩)) = offsetOf text ⟨0, 2⟩ := by
  intro text
  obtain ⟨hmono, hback, hbreak, hposition⟩ := conversions_agree text
  have hbefore : (⟨0, 9⟩ : Position).AtOrBefore ⟨1, 0⟩ := Or.inl (by decide)
  have hbeyond : ¬SplitsReturn text 9 := by
    rintro ⟨front, rest, heq, hlength⟩
    have hwhole : 5 = _ := congrArg List.length heq
    rw [List.length_append] at hwhole
    omega
  have hsplits : SplitsReturn text 3 := ⟨"a🎉".toList, "b".toList, rfl, rfl⟩
  exact ⟨⟨hbefore, hmono _ _ hbefore⟩, ⟨hbeyond, hback 9 hbeyond⟩, ⟨hsplits, hbreak 3 hsplits⟩,
    hposition _⟩

end Document

end LuaAssist

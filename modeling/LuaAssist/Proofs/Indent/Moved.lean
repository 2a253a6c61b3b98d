import LuaAssist.Proofs.Document.Fronts
import LuaAssist.Proofs.Indent.Columns
import LuaAssist.Proofs.Text.Trim
import LuaAssist.Proofs.Token.Words

/-!
# Lines that are moved

An edit that moves a line exchanges its indentation and nothing else. The line is read the same
behind any indentation, also where it goes on with a long comment or a long string, so the same
column is asked for again and the line stands at it.
-/

namespace LuaAssist.Indent

open Document (Meet Unbroken dropLineFeed lineCount lineText lineTexts rawLines withFront)

variable {text line front other body rest typed : Text} {number target : Nat} {style : Style}

/-! ## Indentations -/

/-- A text of spaces and tabs. -/
def IsIndentation (text : Text) : Prop := ∀ c ∈ text, isIndent c = true

/-- Blanks that reach a column are an indentation. -/
theorem isIndentation_blanks (target : Nat) (style : Style) : IsIndentation (blanks target style) :=
  isIndent_of_mem_blanks

/-- An indentation has no break. -/
theorem IsIndentation.unbroken (hfront : IsIndentation front) : Unbroken front :=
  fun c hc => isBreak_of_isIndent (hfront c hc)

/-- Two lines that are read the same, whatever is open in front of them. -/
def ReadAlike (line other : Text) : Prop :=
  ∀ state, keywordsOf (Lexer.scan line state) = keywordsOf (Lexer.scan other state) ∧
    (Lexer.scan line state).state = (Lexer.scan other state).state

/-- A long token that goes on from the line before takes an indentation with it. -/
theorem continueLong_indentation {form : Lexer.LongForm} (hform : form = .string ∨
    form = .comment) (hfront : IsIndentation front) (level : Nat) (body : Text) :
    keywordsOf (Lexer.continueLong form level (front ++ body)) =
        keywordsOf (Lexer.continueLong form level body) ∧
      (Lexer.continueLong form level (front ++ body)).state =
        (Lexer.continueLong form level body).state := by
  have hsign : ∀ c ∈ front, c ≠ ']' := by
    rintro c hc rfl
    exact absurd (hfront _ hc) (by decide)
  obtain ⟨hwords, hstate⟩ := Lexer.continueLong_says hform level (front ++ body)
  obtain ⟨hbodyWords, hbodyState⟩ := Lexer.continueLong_says hform level body
  rw [hwords, hstate, hbodyWords, hbodyState, Lexer.longClose?_append_left hsign]
  cases Lexer.longClose? level body with
  | none => exact ⟨rfl, rfl⟩
  | some length =>
    simp only [Option.map_some, List.drop_length_add_append]
    exact ⟨trivial, trivial⟩

/-- An indentation does not change how a line is read. -/
theorem readAlike_indentation (hfront : IsIndentation front) (body : Text) :
    ReadAlike (front ++ body) body := by
  intro state
  cases state with
  | code =>
    obtain ⟨hwords, hstate⟩ :=
      Lexer.skip_indentation (fun c hc => isSpace_of_isIndent (hfront c hc)) body
    rw [Lexer.keywordsOf_scan, Lexer.keywordsOf_scan, hwords]
    exact ⟨rfl, hstate⟩
  | longComment level => exact continueLong_indentation (.inr rfl) hfront level body
  | longString level => exact continueLong_indentation (.inl rfl) hfront level body

/-- Whether a line ends with a closing keyword does not depend on its indentation. -/
theorem endsWithClosing_indentation (hfront : IsIndentation front) (body : Text) :
    endsWithClosing (front ++ body) = endsWithClosing body := by
  have hblank : ∀ c ∈ front, Text.isBlank c = true := fun c hc => isBlank_of_isIndent (hfront c hc)
  by_cases hnil : Text.trimEnd body = []
  · rw [endsWithClosing, endsWithClosing, Text.trimEnd_append_of_eq_nil _ hnil, hnil,
      Text.trimEnd_eq_nil hblank]
  · have hsolid : ∀ keyword ∈ closing, ∀ c ∈ keyword, isIndent c = false := by decide
    rw [endsWithClosing, endsWithClosing, Text.trimEnd_append_of_ne_nil _ hnil, Bool.eq_iff_iff,
      List.any_eq_true, List.any_eq_true]
    simp only [List.isSuffixOf_iff_suffix]
    refine exists_congr fun keyword => and_congr_right fun hkeyword => ⟨fun hsuffix => ?_,
      fun hsuffix => hsuffix.trans (List.suffix_append _ _)⟩
    rcases List.suffix_or_suffix_of_suffix hsuffix (List.suffix_append front _) with
      hshort | ⟨taken, rfl⟩
    · exact hshort
    · -- What the keyword takes of the indentation is empty.
      have htaken : taken = [] := by
        rw [List.eq_nil_iff_forall_not_mem]
        intro c hc
        have hindent := hfront c (((List.suffix_append_self_iff).mp hsuffix).subset hc)
        rw [hsolid _ hkeyword c (List.mem_append_left _ hc)] at hindent
        cases hindent
      rw [htaken, List.nil_append]

/-! ## Documents with one line moved -/

/-- The text of a line is the one that is listed, and beyond the lines it is empty. -/
theorem lineText_eq (text : Text) (number : Nat) :
    lineText text number = (lineTexts text)[number]?.getD [] := by
  rw [lineText, lineTexts, List.getElem?_map]
  cases (rawLines text)[number]? <;> rfl

/-- Lines of which one is exchanged for one that is read the same have the same keywords. -/
theorem keywordsFrom_set {lines : List Text} (hline : lines[number]? = some line)
    (halike : ReadAlike other line) (state : LineState) :
    keywordsFrom state (lines.set number other) = keywordsFrom state lines := by
  induction lines generalizing number state with
  | nil => rfl
  | cons first lines ih =>
    cases number with
    | zero =>
      obtain rfl : first = line := Option.some.inj hline
      rw [List.set_cons_zero, keywordsFrom, keywordsFrom, (halike state).1, (halike state).2]
    | succ number => rw [List.set_cons_succ, keywordsFrom, keywordsFrom, ih hline]

/-- A line of a document is an indentation and what is written behind it, with its break. -/
structure IsIndented (text : Text) (number : Nat) (front rest : Text) : Prop where
  line : (rawLines text)[number]? = some (front ++ rest)
  front : IsIndentation front
  rest : Unindented rest

/-- Every line is an indentation and what is written behind it. -/
theorem exists_isIndented (hnumber : number < lineCount text) :
    ∃ front rest, IsIndented text number front rest := by
  have hline := List.getElem?_eq_getElem (show number < (rawLines text).length from hnumber)
  generalize (rawLines text)[number] = line at hline
  refine ⟨line.takeWhile isIndent, line.dropWhile isIndent, ?_, ?_, ?_⟩
  · rw [List.takeWhile_append_dropWhile, hline]
  · exact fun c hc => List.mem_takeWhile_imp hc
  · have hstop := List.head?_dropWhile_not isIndent line
    rw [Unindented]
    cases hhead : (line.dropWhile isIndent).head? with
    | none => rfl
    | some c =>
      rw [hhead] at hstop
      exact hstop

namespace IsIndented

variable (hindented : IsIndented text number front rest)

include hindented

/-- The text of the line is its indentation and the rest without its line feed. -/
theorem lineText_eq : lineText text number = front ++ dropLineFeed rest :=
  Document.lineText_of_front hindented.line hindented.front.unbroken

/-- What stands behind the indentation when the line feed is dropped. -/
theorem unindented : Unindented (dropLineFeed rest) := by
  obtain ⟨feed, hfeed⟩ := Document.prefix_dropLineFeed rest
  have hrest := hindented.rest
  rw [← hfeed] at hrest
  exact hrest.front

/-- What stands behind the indentation is the rest without its line feed. -/
theorem dropWhile_lineText : (lineText text number).dropWhile isIndent = dropLineFeed rest := by
  rw [hindented.lineText_eq, dropWhile_isIndent hindented.front hindented.unindented]

/-- The edit begins where the line does. -/
theorem offsetOf_start (target : Nat) (style : Style) :
    Document.offsetOf text (moveTo number (lineText text number) target style).range.start =
      Document.lineStart text number :=
  Document.offsetOf_lineStart (Document.lt_lineCount_of_getElem? hindented.line)

/-- The edit ends where the indentation does. -/
theorem offsetOf_stop (target : Nat) (style : Style) :
    Document.offsetOf text (moveTo number (lineText text number) target style).range.stop =
      Document.lineStart text number + front.length := by
  rw [moveTo, hindented.lineText_eq, takeWhile_isIndent hindented.front hindented.unindented,
    ← utf16Length_of_isIndent hindented.front,
    Document.offsetOf_front hindented.line hindented.front.unbroken,
    utf16Length_of_isIndent hindented.front]

/-- The edit exchanges the indentation of the line. -/
theorem apply_moveTo (target : Nat) (style : Style) :
    Document.apply text (moveTo number (lineText text number) target style).toChange =
      withFront text number front (blanks target style) := by
  have hstart := hindented.offsetOf_start target style
  have hstop := hindented.offsetOf_stop target style
  rw [withFront, ← hstop, ← hstart]
  rfl

end IsIndented

/-- The second document has another indentation in front of one line, and is the first one
otherwise. -/
structure IsMoved (text after : Text) (number : Nat) (front other rest : Text) : Prop where
  before : IsIndented text number front rest
  lines : rawLines after = (rawLines text).set number (other ++ rest)
  other : IsIndentation other

namespace IsMoved

variable {after : Text} (hmoved : IsMoved text after number front other rest)

include hmoved

/-- The line has the new indentation. -/
theorem isIndented : IsIndented after number other rest where
  line := by
    rw [hmoved.lines,
      List.getElem?_set_self (List.getElem?_eq_some_iff.mp hmoved.before.line).1]
  front := hmoved.other
  rest := hmoved.before.rest

/-- The line has the new indentation, and all other lines have the same texts. -/
theorem lineTexts_eq :
    lineTexts after = (lineTexts text).set number (other ++ dropLineFeed rest) := by
  rw [lineTexts, hmoved.lines, List.map_set, lineTexts,
    Document.dropLineFeed_append_unbroken hmoved.other.unbroken]

/-- The keywords of all lines are the same. -/
theorem keywordLines_eq (last : Nat) : keywordLines after last = keywordLines text last := by
  have hline : (lineTexts text)[number]? = some (front ++ dropLineFeed rest) := by
    rw [lineTexts, List.getElem?_map, hmoved.before.line, Option.map_some,
      Document.dropLineFeed_append_unbroken hmoved.before.front.unbroken]
  have halike : ReadAlike (other ++ dropLineFeed rest) (front ++ dropLineFeed rest) :=
    fun state =>
      ⟨((readAlike_indentation hmoved.other _ state).1).trans
          (readAlike_indentation hmoved.before.front _ state).1.symm,
        ((readAlike_indentation hmoved.other _ state).2).trans
          (readAlike_indentation hmoved.before.front _ state).2.symm⟩
  rw [keywordLines, keywordLines, hmoved.lineTexts_eq, List.take_set]
  by_cases hlast : number < last + 1
  · exact keywordsFrom_set (by rw [List.getElem?_take, if_pos hlast, hline]) halike _
  · rw [List.set_eq_of_length_le (by rw [List.length_take]; omega)]

/-- The lines above are the same, and so are their keywords. -/
theorem above_eq : ((lineTexts after).zip (keywordLines after number)).take number =
    ((lineTexts text).zip (keywordLines text number)).take number := by
  rw [hmoved.keywordLines_eq, hmoved.lineTexts_eq, List.zip_eq_zipWith, List.zip_eq_zipWith,
    List.take_zipWith, List.take_zipWith, List.take_set_of_le (Nat.le_refl _)]

/-- The line is asked to stand at the same column. -/
theorem target?_eq (typed : Text) (style : Style) :
    target? after number typed style = target? text number typed style := by
  have hends : endsWithClosing (lineText after number) =
      endsWithClosing (lineText text number) := by
    rw [hmoved.before.lineText_eq, hmoved.isIndented.lineText_eq,
      endsWithClosing_indentation hmoved.other, endsWithClosing_indentation hmoved.before.front]
  rw [target?, target?, hends, closingColumn?, closingColumn?, newLineColumn, newLineColumn,
    hmoved.above_eq, hmoved.keywordLines_eq]

end IsMoved

/-- A line that stands right does so unless a tab stands in it where spaces are wanted. -/
theorem standsAt_blanks (hbody : Unindented body) (htarget : target < columnCount) (style : Style) :
    standsAt (blanks target style ++ body) target style =
      !(style.spaces && body.contains '\t') := by
  have htabs : style.spaces = true → '\t' ∉ blanks target style := by
    intro hspaces htab
    rw [blanks, if_pos hspaces] at htab
    exact absurd (List.eq_of_mem_replicate htab) (by decide)
  rw [standsAt, column_blanks hbody htarget, decide_eq_true rfl, Bool.true_and]
  cases hspaces : style.spaces with
  | false => rw [Bool.and_false, Bool.false_and]
  | true =>
    have hmem : '\t' ∈ blanks target style ++ body ↔ '\t' ∈ body := by
      rw [List.mem_append, or_iff_right (htabs hspaces)]
    rw [Bool.and_true, Bool.true_and, List.contains_eq_mem, List.contains_eq_mem,
      decide_eq_decide.mpr hmem]

/-! ## The edit -/

/-- The document after the edit that is asked for, if there is one. -/
def indentLine (text : Text) (number : Nat) (typed : Text) (style : Style) : Text :=
  match edit? text number typed style with
  | none => text
  | some edit => Document.apply text edit.toChange

/-- The edit joins a carriage return and a line feed between which it leaves nothing. -/
def Joins (text : Text) (edit : Document.Edit) : Prop :=
  Meet (text.take (Document.offsetOf text edit.range.start))
    (edit.text ++ text.drop (Document.offsetOf text edit.range.stop))

instance (text : Text) (edit : Document.Edit) : Decidable (Joins text edit) :=
  inferInstanceAs (Decidable (Meet _ _))

variable {edit : Document.Edit}

/-- An edit moves a line that has to stand elsewhere. -/
theorem exists_target (hedit : edit? text number typed style = some edit) : ∃ target,
    target? text number typed style = some target ∧
      edit = moveTo number (lineText text number) target style := by
  cases htarget : target? text number typed style with
  | none => simp [edit?, htarget] at hedit
  | some target =>
    have hmove : (if standsAt (lineText text number) target style then none
        else some (moveTo number (lineText text number) target style)) = some edit := by
      rwa [edit?, htarget] at hedit
    split at hmove
    · cases hmove
    · exact ⟨target, rfl, (Option.some.inj hmove).symm⟩

/-- An edit joins a return and a line feed if it empties a line of spaces and tabs, whose line feed
then follows a return that ends the line above. -/
theorem joins_iff (hline : number < lineCount text)
    (hedit : edit? text number typed style = some edit) :
    Joins text edit ↔
      edit.text = [] ∧ (text.take (Document.lineStart text number)).getLast? = some '\r' ∧
        ∃ front, IsIndentation front ∧ (rawLines text)[number]? = some (front ++ ['\n']) := by
  obtain ⟨target, -, rfl⟩ := exists_target hedit
  obtain ⟨front, rest, hindented⟩ := exists_isIndented hline
  rw [Joins, hindented.offsetOf_start, hindented.offsetOf_stop, Document.drop_front hindented.line,
    show (moveTo number (lineText text number) target style).text = blanks target style from rfl]
  constructor
  · rintro ⟨hreturn, hhead⟩
    have hblanks : blanks target style = [] := by
      cases hblanks : blanks target style with
      | nil => rfl
      | cons c more =>
        have hc := isIndentation_blanks target style c (by simp [hblanks])
        rw [hblanks, List.cons_append, List.head?_cons, Option.some.injEq] at hhead
        rw [hhead] at hc
        cases hc
    -- What begins with a line feed is a line that has nothing else.
    rw [hblanks, List.nil_append] at hhead
    obtain ⟨behind, hbehind⟩ := List.head?_eq_some_iff.mp hhead
    have hlines := Document.rawLines_behind_front hindented.line hindented.front.unbroken
    have hfeed : rawLines ('\n' :: behind) = ['\n'] :: rawLines behind :=
      Document.rawLines_break (by decide) (by simp)
    rw [hbehind, hfeed] at hlines
    refine ⟨hblanks, hreturn, front, hindented.front, ?_⟩
    rw [hindented.line, ← (List.cons.inj hlines).1]
  · rintro ⟨hblanks, hreturn, other, hother, hline⟩
    have hrest : rest = ['\n'] := by
      have hsame := Option.some.inj (hindented.line.symm.trans hline)
      rw [← dropWhile_isIndent hindented.front hindented.rest, hsame,
        dropWhile_isIndent hother (by decide)]
    rw [hblanks, hrest]
    exact ⟨hreturn, rfl⟩

/-- The document behind the edit differs in the indentation of the line only, unless the edit
joins what it leaves nothing between. -/
theorem IsIndented.isMoved (hindented : IsIndented text number front rest)
    (hedit : edit = moveTo number (lineText text number) target style)
    (hapart : ¬Joins text edit) :
    IsMoved text (Document.apply text edit.toChange) number front (blanks target style) rest where
  before := hindented
  lines := by
    subst hedit
    rw [Joins, hindented.offsetOf_start, hindented.offsetOf_stop] at hapart
    rw [hindented.apply_moveTo]
    exact Document.rawLines_withFront hindented.line hindented.front.unbroken
      (isIndentation_blanks target style).unbroken hapart
  other := isIndentation_blanks target style

/-- Where an edit has moved a line, nothing more is asked for, unless a tab stands behind the
indentation where spaces are wanted. -/
theorem IsMoved.edit?_eq {after : Text}
    (hmoved : IsMoved text after number front (blanks target style) rest)
    (htarget : target? text number typed style = some target) :
    edit? after number typed style =
      if style.spaces && (dropLineFeed rest).contains '\t' then
        some (moveTo number (lineText after number) target style)
      else none := by
  have hstands : standsAt (lineText after number) target style =
      !(style.spaces && (dropLineFeed rest).contains '\t') := by
    rw [hmoved.isIndented.lineText_eq,
      standsAt_blanks hmoved.before.unindented (target?_lt htarget)]
  rw [edit?, hmoved.target?_eq, htarget]
  simp only [Option.bind_eq_bind, Option.bind_some, hstands]
  cases style.spaces && (dropLineFeed rest).contains '\t' <;> rfl

/-- Where an edit has moved a line, asking again changes nothing. -/
theorem IsMoved.indentLine_eq {after : Text}
    (hmoved : IsMoved text after number front (blanks target style) rest)
    (htarget : target? text number typed style = some target) :
    indentLine after number typed style = after := by
  rw [indentLine, hmoved.edit?_eq htarget]
  split
  · rfl
  · rename_i edit hedit
    split at hedit
    · rw [← Option.some.inj hedit, hmoved.isIndented.apply_moveTo,
        Document.withFront_self hmoved.isIndented.line]
    · cases hedit

/-- An edit changes nothing but the indentation of its line, which then stands at the column that
is asked for, and asking again changes nothing more; all this holds if and only if the edit does
not join a carriage return and a line feed. -/
theorem edit?_moves_iff (hline : number < lineCount text)
    (hedit : edit? text number typed style = some edit) :
    (let after := Document.apply text edit.toChange;
      lineCount after = lineCount text ∧
      (∀ other, other ≠ number → (rawLines after)[other]? = (rawLines text)[other]?) ∧
      ((rawLines after)[number]?.map fun line => line.dropWhile isIndent) =
        ((rawLines text)[number]?.map fun line => line.dropWhile isIndent) ∧
      (if endsWithClosing (lineText text number) then closingColumn? text number style
        else some (newLineColumn text number style)) =
        some (column (lineText after number) style.tabSize) ∧
      indentLine after number typed style = after) ↔ ¬Joins text edit := by
  obtain ⟨target, htarget, hmove⟩ := exists_target hedit
  obtain ⟨front, rest, hindented⟩ := exists_isIndented hline
  have hkeeps := Document.withFront_keeps_iff hindented.line hindented.front.unbroken
    (isIndentation_blanks target style).unbroken
  constructor
  · -- The other lines alone tell that nothing has been joined.
    rintro ⟨hcount, hothers, -⟩
    subst hmove
    rw [hindented.apply_moveTo] at hcount hothers
    rw [Joins, hindented.offsetOf_start, hindented.offsetOf_stop]
    exact hkeeps.mp ⟨hcount, hothers⟩
  · intro hjoins
    have hmoved := hindented.isMoved hmove hjoins
    refine ⟨?_, ?_, ?_, ?_, hmoved.indentLine_eq htarget⟩
    · rw [lineCount, hmoved.lines, List.length_set, lineCount]
    · intro other hother
      rw [hmoved.lines, List.getElem?_set_ne hother.symm]
    · rw [hmoved.isIndented.line, hindented.line, Option.map_some, Option.map_some,
        dropWhile_isIndent hmoved.other hindented.rest,
        dropWhile_isIndent hindented.front hindented.rest]
    · rw [hmoved.isIndented.lineText_eq, column_blanks hindented.unindented (target?_lt htarget)]
      rw [target?] at htarget
      split at htarget
      · rename_i hcloses
        rw [if_pos hcloses, htarget]
      · rename_i hcloses
        split at htarget
        · rw [if_neg hcloses, htarget]
        · cases htarget

/-- A line that begins inside a comment stands under the `if` that its `end` closes, also where
tabs have no width. -/
theorem edit?_moves_comment :
    let text := "function f()\n\t  if a then -- else\n\tb() --[[ do\n     ]] end".toList
    let style : Style := ⟨4, 0, false⟩
    let edit : Document.Edit := ⟨⟨⟨3, 0⟩, ⟨3, 5⟩⟩, "\t\t\t".toList⟩
    3 < lineCount text ∧ edit? text 3 "d".toList style = some edit ∧
      (let after := Document.apply text edit.toChange;
        lineCount after = lineCount text ∧
        (∀ other, other ≠ 3 → (rawLines after)[other]? = (rawLines text)[other]?) ∧
        ((rawLines after)[3]?.map fun line => line.dropWhile isIndent) =
          ((rawLines text)[3]?.map fun line => line.dropWhile isIndent) ∧
        (if endsWithClosing (lineText text 3) then closingColumn? text 3 style
          else some (newLineColumn text 3 style)) = some (column (lineText after 3) style.tabSize) ∧
        indentLine after 3 "d".toList style = after) := by
  intro text style edit
  have hline : 3 < lineCount text := by decide +kernel
  have hedit : edit? text 3 "d".toList style = some edit := by decide +kernel
  exact ⟨hline, hedit, (edit?_moves_iff hline hedit).mpr (by decide +kernel)⟩

/-- An edit that leaves nothing between a carriage return and a line feed takes the return from
the line above, and asked again for the line of this number, which is another one now, it changes
the document once more. -/
theorem edit?_joins_lines :
    let text := "x\r  \n    y".toList
    let edit : Document.Edit := ⟨⟨⟨1, 0⟩, ⟨1, 2⟩⟩, []⟩
    let after := Document.apply text edit.toChange
    edit? text 1 "\n".toList ⟨4, 4, true⟩ = some edit ∧ Joins text edit ∧
      lineText text 0 = "x\r".toList ∧ lineText after 0 = "x".toList ∧
      indentLine after 1 "\n".toList ⟨4, 4, true⟩ ≠ after := by
  decide +kernel

/-- Behind an edit that joins nothing no edit is asked for, unless spaces are wanted and a tab
stands behind the indentation of the line. -/
theorem edit?_again_iff (hline : number < lineCount text)
    (hedit : edit? text number typed style = some edit) (hjoins : ¬Joins text edit) :
    edit? (Document.apply text edit.toChange) number typed style = none ↔
      ¬(style.spaces = true ∧ '\t' ∈ (lineText text number).dropWhile isIndent) := by
  obtain ⟨target, htarget, hmove⟩ := exists_target hedit
  obtain ⟨front, rest, hindented⟩ := exists_isIndented hline
  rw [(hindented.isMoved hmove hjoins).edit?_eq htarget, hindented.dropWhile_lineText]
  simp

/-- Tabs in the indentation are exchanged for spaces, and then nothing more is asked for. -/
theorem edit?_again_of_tabs :
    let text := "if a then\n\t  x()".toList
    let style : Style := ⟨4, 8, true⟩
    let edit : Document.Edit := ⟨⟨⟨1, 0⟩, ⟨1, 3⟩⟩, "    ".toList⟩
    1 < lineCount text ∧ edit? text 1 "\n".toList style = some edit ∧ ¬Joins text edit ∧
      edit? (Document.apply text edit.toChange) 1 "\n".toList style = none := by
  intro text style edit
  have hline : 1 < lineCount text := by decide +kernel
  have hedit : edit? text 1 "\n".toList style = some edit := by decide +kernel
  have hjoins : ¬Joins text edit := by decide +kernel
  exact ⟨hline, hedit, hjoins, (edit?_again_iff hline hedit hjoins).mpr (by decide +kernel)⟩

/-- A tab behind the first character is asked to be removed by an edit that cannot do so. -/
theorem edit?_again_of_inner_tab :
    let text := "x\ty".toList
    let edit : Document.Edit := ⟨⟨⟨0, 0⟩, ⟨0, 0⟩⟩, []⟩
    edit? text 0 "\n".toList ⟨4, 4, true⟩ = some edit ∧
      Document.apply text edit.toChange = text ∧
      edit? (Document.apply text edit.toChange) 0 "\n".toList ⟨4, 4, true⟩ = some edit := by
  decide +kernel

end LuaAssist.Indent

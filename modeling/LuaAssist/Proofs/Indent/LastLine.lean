import LuaAssist.Proofs.Indent.Moved
import LuaAssist.Proofs.Indent.Nesting

/-!
# The line that is typed on

What the editor is answered about the last line of a document, when all lines above it stand at
the columns of their depths, as these are counted. The answer only depends on what has been typed
on the line so far, not on where the line stands, and its edit replaces nothing but the
indentation.
-/

namespace LuaAssist.Indent

open Document (ended Unbroken)
open Lexer (words stateBehind)

variable {style : Style} {above : List Line}

/-! ## The lines above -/

/-- Lines that may stand in a program. -/
def AllPlay (lines : List Line) : Prop := ∀ line ∈ lines, ∃ role, Plays role line.text

/-- The column of a depth, as it is counted. -/
def columnAt (style : Style) (depth : Nat) : Nat := wrap (depth * style.size)

/-- It is a column. -/
theorem columnAt_lt (style : Style) (depth : Nat) : columnAt style depth < columnCount := wrap_lt _

/-- Outside of all blocks a line stands at the first column. -/
theorem columnAt_zero (style : Style) : columnAt style 0 = 0 := by
  rw [columnAt, Nat.zero_mul]
  rfl

/-- A line as typing leaves it. It is printed so if the column of its depth is not beyond the count.
-/
def Line.laid (style : Style) (line : Line) : Text :=
  blanks (columnAt style line.depth) style ++ line.text

/-- The lines as typing leaves them, each with its keywords. -/
def withKeywords (style : Style) (lines : List Line) : List (Text × List Text) :=
  lines.map fun line => (line.laid style, ownKeywords line.text)

/-- An indentation adds no keywords. -/
theorem ownKeywords_blanks (target : Nat) (style : Style) (text : Text) :
    ownKeywords (blanks target style ++ text) = ownKeywords text :=
  (readAlike_indentation (isIndentation_blanks target style) text .code).1

/-- A line in a role does not begin with an indentation. -/
theorem Plays.unindented {role : Role} {line : Text} (hplays : Plays role line) :
    Unindented line := by
  have hbegins := hplays.begins
  cases line with
  | nil => rfl
  | cons c rest =>
    have hc : Text.isBlank c = false := by simpa using hbegins
    cases hindent : isIndent c with
    | false => exact hindent
    | true =>
      rw [isBlank_of_isIndent hindent] at hc
      cases hc

/-- A text behind blanks has no breaks. -/
theorem unbroken_blanks {text : Text} (htext : Unbroken text) (target : Nat) (style : Style) :
    Unbroken (blanks target style ++ text) :=
  List.forall_mem_append.mpr ⟨(isIndentation_blanks target style).unbroken, htext⟩

/-- Laid lines have no breaks. -/
theorem unbroken_laid (style : Style) (habove : AllPlay above) :
    ∀ line ∈ above.map (Line.laid style), Unbroken line := by
  intro text htext
  obtain ⟨line, hline, rfl⟩ := List.mem_map.mp htext
  obtain ⟨role, hplays⟩ := habove line hline
  exact unbroken_blanks hplays.unbroken _ _

/-- The keywords of laid lines and of one line more. -/
theorem keywordsFrom_laid (habove : AllPlay above) (last : Text) :
    keywordsFrom .code (above.map (Line.laid style) ++ [last]) =
      above.map (fun line => ownKeywords line.text) ++ [ownKeywords last] := by
  induction above with
  | nil => rfl
  | cons line above ih =>
    obtain ⟨⟨role, hplays⟩, hrest⟩ := List.forall_mem_cons.mp habove
    have hstate : (Lexer.scan (line.laid style) .code).state = .code :=
      ((readAlike_indentation (isIndentation_blanks _ _) line.text .code).2).trans hplays.closed
    rw [List.map_cons, List.cons_append, keywordsFrom, hstate, ih hrest, List.map_cons,
      List.cons_append]
    congr 1
    exact ownKeywords_blanks _ _ _

/-- The document with a text on its last line. -/
def withLast (style : Style) (above : List Line) (last : Text) : Text :=
  ended (above.map (Line.laid style)) ++ last

/-- Its lines. -/
theorem lineTexts_withLast (habove : AllPlay above) {last : Text} (hlast : Unbroken last) :
    Document.lineTexts (withLast style above last) = above.map (Line.laid style) ++ [last] :=
  Document.lineTexts_ended (unbroken_laid style habove) hlast

/-- Its last line. -/
theorem lineText_withLast (habove : AllPlay above) {last : Text} (hlast : Unbroken last) :
    Document.lineText (withLast style above last) above.length = last := by
  have hline := Document.lineText_ended (unbroken_laid style habove) hlast
  rwa [List.length_map] at hline

/-- The keywords of its lines. -/
theorem keywordLines_withLast (habove : AllPlay above) {last : Text} (hlast : Unbroken last) :
    keywordLines (withLast style above last) above.length =
      above.map (fun line => ownKeywords line.text) ++ [ownKeywords last] := by
  rw [keywordLines, lineTexts_withLast habove hlast, List.take_of_length_le (by simp),
    keywordsFrom_laid habove]

/-- The lines above its last, with their keywords. -/
theorem take_withLast (habove : AllPlay above) {last : Text} (hlast : Unbroken last) :
    ((Document.lineTexts (withLast style above last)).zip
        (keywordLines (withLast style above last) above.length)).take above.length =
      withKeywords style above := by
  rw [lineTexts_withLast habove hlast, keywordLines_withLast habove hlast,
    List.zip_append (by simp), List.take_left' (by simp), List.zip_map', withKeywords]

/-! ## Columns for the last line -/

/-- A laid line stands at the column of its depth. -/
theorem column_laid {role : Role} {line : Line} (hplays : Plays role line.text) (style : Style) :
    column (line.laid style) style.tabSize = columnAt style line.depth :=
  column_blanks hplays.unindented (columnAt_lt _ _) _

/-- The line that begins a block is found among laid lines where it is found by their depths. -/
theorem opener?_laid {lines : List Line} (hlines : AllPlay lines) (depth : Int) :
    (opener? depth (withKeywords style lines)).map (fun found => column found style.tabSize) =
      (openerDepth? depth lines).map (columnAt style) := by
  induction lines generalizing depth with
  | nil => rfl
  | cons line lines ih =>
    obtain ⟨⟨role, hplays⟩, hrest⟩ := List.forall_mem_cons.mp hlines
    rw [withKeywords, List.map_cons, ← withKeywords, opener?, openerDepth?]
    simp only
    split
    · simp only [Option.map_some, column_laid hplays]
    · exact ih hrest _

/-- The column under the line that began a block which ends on a line of this text. -/
def alignedColumn? (style : Style) (above : List Line) (text : Text) : Option Nat :=
  if !(ownKeywords text).getLast?.any closes || !closesOutside (ownKeywords text) then none
  else (openerDepth? 0 above.reverse).map (columnAt style)

/-- Where the last line is to be aligned only depends on its text and the lines above. -/
theorem closingColumn?_withLast (habove : AllPlay above) {text : Text} (htext : Unbroken text)
    (target : Nat) :
    closingColumn? (withLast style above (blanks target style ++ text)) above.length style =
      alignedColumn? style above text := by
  have hlast := unbroken_blanks htext target style
  have hreverse : (withKeywords style above).reverse = withKeywords style above.reverse := by
    rw [withKeywords, withKeywords, List.map_reverse]
  have hplay : AllPlay above.reverse := fun line hline => habove line (List.mem_reverse.mp hline)
  rw [closingColumn?, take_withLast habove hlast, keywordLines_withLast habove hlast]
  simp only [hreverse, opener?_laid hplay, alignedColumn?]
  rw [List.getD_eq_getElem?_getD, List.getElem?_append_right (by simp)]
  simp [ownKeywords_blanks]

/-- No column but the one under the line that began the block is asked for. -/
theorem alignedColumn?_unique {depth column : Nat} {text : Text}
    (hopener : openerDepth? 0 above.reverse = some depth)
    (hcolumn : alignedColumn? style above text = some column) : column = columnAt style depth := by
  rw [alignedColumn?, hopener] at hcolumn
  split at hcolumn
  · cases hcolumn
  · exact (Option.some.inj hcolumn).symm

/-- A text without closing keywords asks for no column. -/
theorem alignedColumn?_quiet {text : Text}
    (hquiet : ∀ keyword ∈ ownKeywords text, closes keyword = false) :
    alignedColumn? style above text = none := by
  have hlast : (ownKeywords text).getLast?.any closes = false := by
    cases hkeyword : (ownKeywords text).getLast? with
    | none => rfl
    | some keyword => exact hquiet keyword (List.mem_of_getLast? hkeyword)
  rw [alignedColumn?, hlast]
  rfl

/-- A line in a role has code of its own, with an indentation or without. -/
theorem isSkippable_laid {role : Role} {line : Line} (hplays : Plays role line.text)
    (style : Style) : isSkippable (line.laid style) = false := by
  obtain ⟨c, rest, htext, hc⟩ : ∃ c rest, line.text = c :: rest ∧ Text.isBlank c = false := by
    have hbegins := hplays.begins
    cases htext : line.text with
    | nil => simp [htext] at hbegins
    | cons c rest => exact ⟨c, rest, rfl, by simpa [htext] using hbegins⟩
  have hstart : Text.trimStart (line.laid style) = line.text := by
    rw [Text.trimStart, Line.laid, List.dropWhile_append_of_pos fun c hmem =>
      isBlank_of_isIndent (isIndent_of_mem_blanks c hmem), htext,
      List.dropWhile_cons_of_neg (by simp [hc])]
  have hpre : Text.trimEnd line.text <+: line.text := by
    have hsuffix := List.dropWhile_suffix (l := line.text.reverse) Text.isBlank
    rw [← List.reverse_prefix, List.reverse_reverse] at hsuffix
    exact hsuffix
  have hne : Text.trimEnd line.text ≠ [] := by
    intro hnil
    have hwhole := List.takeWhile_append_dropWhile (p := Text.isBlank) (l := line.text.reverse)
    rw [List.reverse_eq_nil_iff.mp hnil, List.append_nil] at hwhole
    have hblank := List.all_eq_true.mp (List.all_takeWhile (l := line.text.reverse)) c
      (by rw [hwhole, htext]; simp)
    rw [hc] at hblank
    cases hblank
  rw [isSkippable, Text.trim, hstart]
  simp only [Bool.or_eq_false_iff, List.isEmpty_eq_false_iff]
  refine ⟨hne, Bool.eq_false_iff.mpr fun hcomment => ?_⟩
  exact hplays.notComment ((List.isPrefixOf_iff_prefix.mp hcomment).trans hpre)

/-- A new line is begun at the column of the depth that the lines above lead to. -/
theorem newLineColumn_withLast (habove : AllPlay above) :
    newLineColumn (withLast style above []) above.length style =
      columnAt style (nextDepth above) := by
  rw [newLineColumn, take_withLast habove (by simp [Unbroken])]
  rcases List.eq_nil_or_concat above with rfl | ⟨lines, line, rfl⟩
  · rw [nextDepth]
    simp [withKeywords, columnAt_zero]
  · obtain ⟨role, hplays⟩ := habove line (by simp)
    simp only [List.concat_eq_append] at *
    have hlast : (withKeywords style (lines ++ [line])).reverse =
        (line.laid style, ownKeywords line.text) :: (withKeywords style lines).reverse := by
      simp [withKeywords]
    -- No laid line is skipped, so the search ends at the nearest one.
    rw [hlast, List.find?_cons_of_pos (by simp [isSkippable_laid hplays])]
    simp only [column_laid hplays, columnAt, wrap_wrap_add, nextDepth, List.getLast?_concat,
      Nat.add_mul]

/-! ## Edits -/

/-- The edit of an indentation on the last line. -/
theorem apply_moveTo (habove : AllPlay above) {text : Text} (htext : Unbroken text)
    (hunindented : Unindented text) (before target : Nat) :
    Document.apply (withLast style above (blanks before style ++ text))
        (moveTo above.length (blanks before style ++ text) target style).toChange =
      withLast style above (blanks target style ++ text) := by
  have hlast := unbroken_blanks htext before style
  have hlaid := unbroken_laid style habove
  have hstart := Document.lineStart_ended hlaid hlast
  rw [List.length_map] at hstart
  have hindented : IsIndented (withLast style above (blanks before style ++ text)) above.length
      (blanks before style) text := by
    refine ⟨?_, isIndentation_blanks before style, hunindented⟩
    rw [withLast, Document.rawLines_ended hlaid hlast]
    simp
  have happly := hindented.apply_moveTo target style
  rw [lineText_withLast habove hlast] at happly
  rw [happly, Document.withFront_eq, withLast, hstart, List.take_left, List.drop_length_add_append,
    List.drop_left, withLast]

/-- The answer about the last line moves its text to the column that it is to stand at. -/
theorem indentLast_withLast (habove : AllPlay above) {text : Text} (htext : Unbroken text)
    (hunindented : Unindented text) {before : Nat} (hbefore : before < columnCount) (typed : Text) :
    indentLast style (withLast style above (blanks before style ++ text)) typed =
      withLast style above (blanks ((target? (withLast style above (blanks before style ++ text))
        above.length typed style).getD before) style ++ text) := by
  have hlast := unbroken_blanks htext before style
  have hcount : Document.lineCount (withLast style above (blanks before style ++ text)) - 1 =
      above.length := by
    rw [withLast, Document.lineCount_ended (unbroken_laid style habove) hlast]
    simp
  rw [indentLast, hcount, edit?]
  cases target? (withLast style above (blanks before style ++ text)) above.length typed style with
  | none => rfl
  | some target =>
    simp only [Option.bind_eq_bind, Option.bind_some, lineText_withLast habove hlast,
      Option.getD_some]
    by_cases hstands : standsAt (blanks before style ++ text) target style = true
    · rw [if_pos hstands]
      simp only [standsAt, column_blanks hunindented hbefore, Bool.and_eq_true,
        decide_eq_true_eq] at hstands
      rw [hstands.1]
    · rw [if_neg hstands]
      exact apply_moveTo habove htext hunindented before target

end LuaAssist.Indent

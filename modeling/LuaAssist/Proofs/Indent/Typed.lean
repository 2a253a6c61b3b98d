import LuaAssist.Proofs.Indent.LastLine

/-!
# Typing a program lays it out

Typing the lines of a program one character after the other, with the edits that the editor asks
for, ends in the program as it is printed. One character keeps the text of its line and moves it
at most under the line that began its block; one line then stands where it fits, and the lines
of a program fit one after the other.
-/

namespace LuaAssist.Indent

open Document (ended Unbroken)

variable {style : Style} {above : List Line}

/-! ## One character -/

/-- The column of the last line after a character was typed on it. -/
def columnAfter (style : Style) (above : List Line) (before : Nat) (text : Text) (c : Char) : Nat :=
  if electric.contains c && endsWithClosing (blanks before style ++ text) then
    (alignedColumn? style above text).getD before
  else before

/-- A character that is no line feed is added to the last line, and the line is aligned if the
character finished a closing keyword. -/
theorem typeChar_withLast (habove : AllPlay above) {text : Text} {c : Char}
    (htext : Unbroken (text ++ [c])) (hunindented : Unindented (text ++ [c])) {before : Nat}
    (hbefore : before < columnCount) :
    typeChar style (withLast style above (blanks before style ++ text)) c =
      withLast style above
        (blanks (columnAfter style above before (text ++ [c]) c) style ++ (text ++ [c])) := by
  have hfeed : c ≠ '\n' := by
    rintro rfl
    have hbreak := htext '\n' (List.mem_append_right _ (List.mem_singleton_self _))
    cases hbreak
  have htyped : withLast style above (blanks before style ++ text) ++ [c] =
      withLast style above (blanks before style ++ (text ++ [c])) := by
    simp only [withLast, List.append_assoc]
  have hlast := unbroken_blanks htext before style
  simp only [typeChar, htyped, decide_eq_false hfeed, Bool.false_or, columnAfter]
  cases electric.contains c with
  | false => rfl
  | true =>
    rw [if_pos rfl, indentLast_withLast habove htext hunindented hbefore, target?,
      lineText_withLast habove hlast, closingColumn?_withLast habove htext,
      if_neg (fun htyped => hfeed (List.singleton_inj.mp htyped)), Bool.true_and]
    cases endsWithClosing (blanks before style ++ (text ++ [c])) <;> rfl

/-- Where no front of what is typed asks for another column, the line stays where it is. -/
theorem foldl_typeChar_stay (habove : AllPlay above) {column : Nat} (hcolumn : column < columnCount)
    (text behind : Text) (htext : Unbroken (text ++ behind))
    (hunindented : Unindented (text ++ behind))
    (hstay : ∀ front, front <+: text ++ behind → ∀ other,
      alignedColumn? style above front = some other → other = column) :
    behind.foldl (typeChar style) (withLast style above (blanks column style ++ text)) =
      withLast style above (blanks column style ++ (text ++ behind)) := by
  induction behind generalizing text with
  | nil => rw [List.append_nil, List.foldl_nil]
  | cons c behind ih =>
    rw [List.append_cons] at htext hunindented hstay ⊢
    have hfront : Unbroken (text ++ [c]) := (List.forall_mem_append.mp htext).1
    have hkept : columnAfter style above column (text ++ [c]) c = column := by
      rw [columnAfter]
      split
      · cases haligned : alignedColumn? style above (text ++ [c]) with
        | none => rfl
        | some other => exact hstay _ (List.prefix_append _ _) other haligned
      · rfl
    rw [List.foldl_cons, typeChar_withLast habove hfront hunindented.front hcolumn, hkept]
    exact ih _ htext hunindented hstay

/-! ## One line -/

/-- A line without closing keywords in any front of it stays where it is begun. -/
theorem foldl_typeChar_quiet (habove : AllPlay above) {column : Nat}
    (hcolumn : column < columnCount) {text : Text} (htext : Unbroken text) (hunindented : Unindented text)
    (hquiet : ∀ front, front <+: text → ∀ keyword ∈ ownKeywords front, closes keyword = false) :
    text.foldl (typeChar style) (withLast style above (blanks column style)) =
      withLast style above (blanks column style ++ text) := by
  have hstay : ∀ front, front <+: text → ∀ other,
      alignedColumn? style above front = some other → other = column := by
    intro front hfront other hother
    rw [alignedColumn?_quiet (hquiet front hfront)] at hother
    cases hother
  have htyped := foldl_typeChar_stay habove hcolumn [] text htext hunindented hstay
  rwa [List.append_nil] at htyped

/-- A closing keyword alone on a line is aligned as soon as it is finished, and not before. -/
theorem closingStems_typed : ∀ stem ∈ closingStems,
    (Unbroken stem ∧ Unindented stem) ∧
      (∀ word ∈ Lexer.words stem.dropLast, ∀ other ∈ closingStems, ¬ other <+: word) ∧
      stem.getLast?.any electric.contains = true ∧ closes stem = true ∧
      (ownKeywords stem).getLast?.any closes = true ∧ closesOutside (ownKeywords stem) = true := by
  decide +kernel

/-- No letter that may finish a keyword is blank. -/
theorem isBlank_of_electric : ∀ c ∈ electric, Text.isBlank c = false := by decide +kernel

/-- A line that ends with a closing keyword, and with no blank. -/
theorem endsWithClosing_append {stem : Text} (hcloses : closes stem = true) {last : Char}
    (hlast : stem.getLast? = some last) (hblank : Text.isBlank last = false) (before : Text) :
    endsWithClosing (before ++ stem) = true := by
  obtain ⟨front, rfl⟩ := List.getLast?_eq_some_iff.mp hlast
  have htrim : Text.trimEnd (before ++ (front ++ [last])) = before ++ (front ++ [last]) := by
    rw [Text.trimEnd, ← List.append_assoc, List.reverse_concat,
      List.dropWhile_cons_of_neg (by simp [hblank]), ← List.reverse_concat, List.reverse_reverse]
  rw [endsWithClosing, htrim, List.any_eq_true]
  exact ⟨_, List.contains_iff_mem.mp hcloses,
    List.isSuffixOf_iff_suffix.mpr (List.suffix_append before _)⟩

/-- A closing keyword is typed to the column under the line that began its block. -/
theorem foldl_typeChar_stem (habove : AllPlay above) {stem : Text} (hstem : stem ∈ closingStems)
    {depth before : Nat} (hopener : openerDepth? 0 above.reverse = some depth)
    (hbefore : before < columnCount) :
    stem.foldl (typeChar style) (withLast style above (blanks before style)) =
      withLast style above (blanks (columnAt style depth) style ++ stem) := by
  obtain ⟨⟨hunbroken, hunindented⟩, hwords, helectric, hcloses, hkeyword, houtside⟩ :=
    closingStems_typed stem hstem
  obtain ⟨last, hlast, hlastElectric⟩ := (Option.any_eq_true _ _).mp helectric
  obtain ⟨front, rfl⟩ := List.getLast?_eq_some_iff.mp hlast
  rw [List.dropLast_concat] at hwords
  have hfront : front.foldl (typeChar style) (withLast style above (blanks before style)) =
      withLast style above (blanks before style ++ front) :=
    foldl_typeChar_quiet habove hbefore (List.forall_mem_append.mp hunbroken).1 hunindented.front
      (quiet_of_words hwords)
  have hends : endsWithClosing (blanks before style ++ (front ++ [last])) = true :=
    endsWithClosing_append hcloses hlast
      (isBlank_of_electric last (List.contains_iff_mem.mp hlastElectric)) _
  have haligned : alignedColumn? style above (front ++ [last]) = some (columnAt style depth) := by
    rw [alignedColumn?, hkeyword, houtside, hopener]
    rfl
  rw [List.foldl_append, hfront, List.foldl_cons, List.foldl_nil,
    typeChar_withLast habove hunbroken hunindented hbefore, columnAfter, hlastElectric, hends,
    haligned]
  rfl

/-- A line that fits is typed to where it stands. -/
theorem foldl_typeChar_line (style : Style) (habove : AllPlay above) {line : Line}
    (hfits : Fits above line) :
    line.text.foldl (typeChar style)
        (withLast style above (blanks (columnAt style (nextDepth above)) style)) =
      withLast style above (line.laid style) := by
  have hbegun : columnAt style (nextDepth above) < columnCount := columnAt_lt _ _
  cases hfits with
  | below hplays hrole hdepth =>
    rw [Line.laid, hdepth]
    exact foldl_typeChar_quiet habove hbegun hplays.unbroken hplays.unindented (hplays.quiet hrole)
  | aligned hplays hrole hopener =>
    -- Its keyword moves the line once; what is typed behind it can only ask for the same column.
    obtain ⟨stem, hstem, tail, htail⟩ := hplays.stem hrole
    rw [Line.laid, ← htail, List.foldl_append, foldl_typeChar_stem habove hstem hopener hbegun]
    exact foldl_typeChar_stay habove (columnAt_lt _ _) stem tail (htail ▸ hplays.unbroken)
      (htail ▸ hplays.unindented) fun front _ other hother => alignedColumn?_unique hopener hother

/-! ## All lines -/

/-- The lines as typing leaves them. -/
def laidOut (style : Style) (lines : List Line) : Text :=
  Text.join ['\n'] (lines.map (Line.laid style))

/-- They are printed so if no line stands beyond the count of columns. -/
theorem laidOut_eq_printed {style : Style} {lines : List Line}
    (hcounted : ∀ line ∈ lines, line.depth * style.size < columnCount) :
    laidOut style lines = printed style lines := by
  have hsame : lines.map (Line.laid style) = lines.map (Line.render style) :=
    List.map_congr_left fun line hline => by
      rw [Line.laid, columnAt, wrap_of_lt (hcounted line hline), Line.render]
  rw [laidOut, hsame, printed]

/-- Laid lines, and the last of them not ended. -/
theorem laidOut_concat (style : Style) (above : List Line) (line : Line) :
    laidOut style (above ++ [line]) = withLast style above (line.laid style) := by
  rw [laidOut, List.map_append, List.map_singleton, Document.join_concat, withLast]

/-- After a line feed the next line is begun. -/
theorem typeChar_feed (habove : AllPlay above) (hne : above ≠ []) :
    typeChar style (laidOut style above) '\n' =
      withLast style above (blanks (columnAt style (nextDepth above)) style) := by
  have hfed : laidOut style above ++ ['\n'] = withLast style above (blanks 0 style ++ []) := by
    obtain ⟨lines, line, rfl⟩ := (List.eq_nil_or_concat above).resolve_left hne
    rw [List.concat_eq_append, laidOut_concat, blanks_zero, withLast, withLast, List.map_append,
      Document.ended_append]
    simp
  have hempty : Unbroken [] := List.forall_mem_nil _
  have htarget : target? (withLast style above (blanks 0 style ++ [])) above.length ['\n'] style =
      some (columnAt style (nextDepth above)) := by
    have hends : endsWithClosing [] = false := by decide +kernel
    rw [blanks_zero, List.append_nil, target?, lineText_withLast habove hempty, hends,
      newLineColumn_withLast habove]
    rfl
  simp only [typeChar, hfed]
  rw [if_pos (by simp), indentLast_withLast habove hempty rfl (by decide), htarget,
    Option.getD_some, List.append_nil]

/-- Joined lines are the first one and the others, each behind a line feed. -/
theorem join_cons (first : Text) (rest : List Text) :
    Text.join ['\n'] (first :: rest) = first ++ (rest.map ('\n' :: ·)).flatten := by
  induction rest generalizing first with
  | nil => simp [Text.join]
  | cons next rest ih => rw [Text.join, ih]; simp

/-- Lines that fit below each other are typed to where they stand. -/
theorem foldl_typeChar_lines {rest : List Line} (hlaid : WellLaid above rest)
    (habove : AllPlay above) (hne : above ≠ []) :
    ((rest.map Line.text).map ('\n' :: ·)).flatten.foldl (typeChar style) (laidOut style above) =
      laidOut style (above ++ rest) := by
  induction hlaid with
  | nil above => simp
  | @cons above line rest hfits _ ih =>
    have hplay : AllPlay (above ++ [line]) :=
      List.forall_mem_append.mpr ⟨habove, List.forall_mem_singleton.mpr hfits.plays⟩
    rw [List.map_cons, List.map_cons, List.flatten_cons, List.foldl_append, List.foldl_cons,
      typeChar_feed habove hne, foldl_typeChar_line style habove hfits, ← laidOut_concat,
      ih hplay (by simp), List.append_assoc, List.singleton_append]

/-- Typing the lines of a program leaves each at its column, as columns are counted. -/
theorem typeOut_laidOut (style : Style) {program : Program} (hplain : program.IsPlain)
    (hfinished : program.IsFinished) :
    typeOut style (keystrokes (program.lines 0)) = laidOut style (program.lines 0) := by
  obtain ⟨hlaid, -⟩ := program.wellLaid ⟨hplain, hfinished⟩ [] 0 rfl
  cases hlines : program.lines 0 with
  | nil => rfl
  | cons line rest =>
    rw [hlines] at hlaid
    obtain - | ⟨hfits, hrest⟩ := hlaid
    have hnone : AllPlay [] := List.forall_mem_nil _
    have hplay : AllPlay ([] ++ [line]) := List.forall_mem_singleton.mpr hfits.plays
    have hstart : withLast style [] (blanks (columnAt style (nextDepth [])) style) = [] := by
      rw [nextDepth, List.getLast?_nil, columnAt_zero, blanks_zero]
      rfl
    have hfirst := foldl_typeChar_line style hnone hfits
    rw [hstart, ← laidOut_concat] at hfirst
    rw [keystrokes, List.map_cons, join_cons, typeOut, List.foldl_append, hfirst,
      foldl_typeChar_lines hrest hplay (by simp)]
    rfl

/-- A line below another one is begun at its depth or deeper. -/
theorem depth_le_nextDepth (line : Line) : line.depth ≤ nextDepth [line] := Nat.le_add_right _ _

/-- Typing the lines of a program, with all edits that are asked for, ends in the program as it
is printed, for every style, with spaces and with tabs, and for programs of any depth for which no
column overflows: neither that of a line nor that at which the line below it is begun. -/
theorem typeOut_printed (style : Style) (program : Program) (hplain : program.IsPlain)
    (hfinished : program.IsFinished)
    (hcounted : ∀ line ∈ program.lines 0, nextDepth [line] * style.size < columnCount) :
    typeOut style (keystrokes (program.lines 0)) = printed style (program.lines 0) := by
  have hprinted : ∀ line ∈ program.lines 0, line.depth * style.size < columnCount :=
    fun line hline => (Nat.mul_le_mul_right style.size (depth_le_nextDepth line)).trans_lt
      (hcounted line hline)
  rw [typeOut_laidOut style hplain hfinished, laidOut_eq_printed hprinted]

/-- A function over a tree, with a choice and a callback in it. -/
def walk : Program :=
  .block (.function true "walk(tree, visit)".toList)
    (.block (.forDo "_, node in ipairs(tree)".toList)
      (.choice "node.children".toList
        (.statement "walk(node.children, visit)".toList .empty)
        (.orIf "node.skip".toList (.statement "visit(nil)".toList .empty)
          (.otherwise
            (.block (.callback "on_leaf".toList "leaf".toList)
              (.statement "visit(leaf)".toList .empty) .empty)))
        .empty)
      .empty)
    .empty

/-- The function is typed with two columns for a level and tabs of four. -/
theorem typeOut_printed_walk : walk.IsPlain ∧ walk.IsFinished ∧
    (∀ line ∈ walk.lines 0, nextDepth [line] * 2 < columnCount) ∧
    typeOut ⟨2, 4, false⟩ (keystrokes (walk.lines 0)) = Text.join ['\n'] [
      "local function walk(tree, visit)".toList,
      "  for _, node in ipairs(tree) do".toList,
      "\tif node.children then".toList,
      "\t  walk(node.children, visit)".toList,
      "\telseif node.skip then".toList,
      "\t  visit(nil)".toList,
      "\telse".toList,
      "\t  on_leaf(function(leaf)".toList,
      "\t\tvisit(leaf)".toList,
      "\t  end)".toList,
      "\tend".toList,
      "  end".toList,
      "end".toList] := by
  have hplain : walk.IsPlain := by decide +kernel
  have hfinished : walk.IsFinished := by decide +kernel
  have hcounted : ∀ line ∈ walk.lines 0, nextDepth [line] * 2 < columnCount := by
    decide +kernel
  exact ⟨hplain, hfinished, hcounted,
    (typeOut_printed ⟨2, 4, false⟩ walk hplain hfinished hcounted).trans (by decide +kernel)⟩

/-- A comment at the end of a condition takes the keyword behind it along, so the body is not
indented. A line whose column is beyond the count stands at the one where the count starts again.
-/
theorem typeOut_misses_layout :
    (let program : Program :=
      .block (.whileDo "x -- y".toList) (.statement "f()".toList .empty) .empty;
    program.IsPlain ∧ printed ⟨4, 4, true⟩ (program.lines 0) =
        "while x -- y do\n    f()\nend".toList ∧
      typeOut ⟨4, 4, true⟩ (keystrokes (program.lines 0)) =
        "while x -- y do\nf()\nend".toList) ∧
    (let program : Program :=
      .block .justDo (.block .justDo (.statement "f()".toList .empty) .empty) .empty;
    let style : Style := ⟨0x80000000, 0x80000000, false⟩;
    program.IsPlain ∧ program.IsFinished ∧ printed style (program.lines 0) =
        "do\n\tdo\n\t\tf()\n\tend\nend".toList ∧
      typeOut style (keystrokes (program.lines 0)) =
        "do\n\tdo\nf()\n\tend\nend".toList) := by
  decide +kernel

end LuaAssist.Indent

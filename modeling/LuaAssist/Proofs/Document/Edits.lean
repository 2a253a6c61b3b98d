import LuaAssist.Proofs.Document.Lines

/-!
# Edits as the editor protocol has them

In the editor protocol a line ends at a line feed, at a carriage return or at both together, and
a column counts UTF-16 units up to the end of the line without its break. A document knows more
breaks, and only drops a line feed with the carriage return before it. The two agree on every
change of a text exactly when all its breaks are those that both know in the same way.
-/

namespace LuaAssist.Document

variable {c : Char} {rest : Text}

/-! ## The protocol -/

/-- A line of the protocol: its characters, and the break that ends it if there is one. -/
structure EditorLine where
  content : Text
  ending : Text

/-- The lines of the protocol. A line feed, a carriage return and both together end a line. -/
def editorLines : Text → List EditorLine
  | [] => [⟨[], []⟩]
  | '\r' :: '\n' :: rest => ⟨[], ['\r', '\n']⟩ :: editorLines rest
  | c :: rest =>
    if c = '\n' ∨ c = '\r' then ⟨[], [c]⟩ :: editorLines rest
    else match editorLines rest with
      | [] => [⟨[c], []⟩]
      | line :: lines => ⟨c :: line.content, line.ending⟩ :: lines

/-- The characters of a line with its break. -/
def EditorLine.text (line : EditorLine) : Text := line.content ++ line.ending

/-- The characters of a line before a UTF-16 column: the fewest that take so many units, and all
of them if the line is shorter. -/
def editorColumn (content : Text) (units : Nat) : Nat :=
  ((List.range content.length).find? fun count =>
    units ≤ Text.utf16Length (content.take count)).getD content.length

/-- The offset of a position in the protocol; past the last line, the end of the document. -/
def editorOffset (text : Text) (position : Position) : Nat :=
  match (editorLines text)[position.line]? with
  | none => text.length
  | some line =>
    (((editorLines text).take position.line).flatMap EditorLine.text).length +
      editorColumn line.content position.column

/-- The document that the protocol prescribes after a change. -/
def editorApply (text : Text) (change : Change) : Text :=
  match change.range with
  | none => change.text
  | some range =>
    replace text (editorOffset text range.start) (editorOffset text range.stop) change.text

/-- The breaks of a text are line feeds, carriage returns with a line feed behind them, or a last
character that is not a carriage return. -/
def BreaksAgree (text : Text) : Prop :=
  ∀ front c rest, text = front ++ c :: rest → isBreak c = true →
    c = '\n' ∨ (c = '\r' ∧ rest.head? = some '\n') ∨ (c ≠ '\r' ∧ rest = [])

/-! ## Offsets in the protocol -/

/-- A carriage return and a line feed are one break of the protocol. -/
theorem editorLines_pair :
    editorLines ('\r' :: '\n' :: rest) = ⟨[], ['\r', '\n']⟩ :: editorLines rest := rfl

/-- A line feed, and a carriage return without one, are breaks of the protocol. -/
theorem editorLines_alone (hends : c = '\n' ∨ c = '\r')
    (halone : c = '\r' → rest.head? ≠ some '\n') :
    editorLines (c :: rest) = ⟨[], [c]⟩ :: editorLines rest := by
  rw [editorLines, if_pos hends]
  rintro tail rfl rfl
  exact halone rfl rfl

/-- There is a first line. -/
theorem exists_editorLines_eq (text : Text) : ∃ line lines, editorLines text = line :: lines := by
  fun_cases editorLines text <;> exact ⟨_, _, rfl⟩

/-- Any other character joins the first of the lines that follow. -/
theorem exists_editorLines_cons (rest : Text) (hinner : ¬(c = '\n' ∨ c = '\r')) :
    ∃ line lines, editorLines rest = line :: lines ∧
      editorLines (c :: rest) = ⟨c :: line.content, line.ending⟩ :: lines := by
  obtain ⟨line, lines, heq⟩ := exists_editorLines_eq rest
  refine ⟨line, lines, heq, ?_⟩
  rw [editorLines, if_neg hinner, heq]
  rintro tail rfl rfl
  exact hinner (Or.inr rfl)

/-- The column of the protocol is found by walking along the line. -/
theorem editorColumn_eq (content : Text) (units : Nat) :
    editorColumn content units = charColumn content units := by
  induction content generalizing units with
  | nil => rfl
  | cons c content ih =>
    rw [charColumn, ← ih]
    unfold editorColumn
    rw [List.length_cons, List.range_succ_eq_map, List.find?_cons]
    by_cases hzero : units = 0
    · simp [hzero]
    · have hfirst : ¬units ≤ Text.utf16Length ((c :: content).take 0) := by
        simp only [List.take_zero, Text.utf16Length]
        omega
      have hnext (count : Nat) : units ≤ Text.utf16Length ((c :: content).take (count + 1)) ↔
          units - Text.utf16Width c ≤ Text.utf16Length (content.take count) := by
        simp only [List.take_succ_cons, Text.utf16Length]
        omega
      rw [if_neg hzero]
      simp only [hfirst, decide_false, List.find?_map, Function.comp_def, Nat.succ_eq_add_one,
        hnext]
      cases (List.range content.length).find? fun count =>
        units - Text.utf16Width c ≤ Text.utf16Length (content.take count) <;> rfl

/-- On a first line that is only a break all columns are at the start, and each later line is one
line further in the rest. -/
theorem editorOffset_break {text ending : Text}
    (hlines : editorLines text = ⟨[], ending⟩ :: editorLines rest)
    (hlength : text.length = ending.length + rest.length) (column : Nat) :
    editorOffset text ⟨0, column⟩ = 0 ∧
      ∀ line, editorOffset text ⟨line + 1, column⟩ =
        ending.length + editorOffset rest ⟨line, column⟩ := by
  refine ⟨by simp [editorOffset, hlines, editorColumn], fun line => ?_⟩
  simp only [editorOffset, hlines, List.getElem?_cons_succ]
  cases (editorLines rest)[line]? with
  | none => exact hlength
  | some next => simp [EditorLine.text, Nat.add_assoc]

/-- In front of a character that ends no line of the protocol there is one column more on the
first line. -/
theorem editorOffset_inner (hinner : ¬(c = '\n' ∨ c = '\r')) (column : Nat) :
    editorOffset (c :: rest) ⟨0, column⟩ =
        (if column = 0 then 0 else editorOffset rest ⟨0, column - Text.utf16Width c⟩ + 1) ∧
      ∀ line, editorOffset (c :: rest) ⟨line + 1, column⟩ =
        editorOffset rest ⟨line + 1, column⟩ + 1 := by
  obtain ⟨first, lines, hrest, hlines⟩ := exists_editorLines_cons rest hinner
  refine ⟨by simp [editorOffset, hlines, hrest, editorColumn_eq, charColumn], fun line => ?_⟩
  simp only [editorOffset, hlines, hrest, List.getElem?_cons_succ]
  cases lines[line]? with
  | none => rfl
  | some next =>
    simp only [List.take_succ_cons, List.flatMap_cons, EditorLine.text, List.cons_append,
      List.length_cons]
    omega

/-- In a document a line that is only a break has at most the column behind that break, and each
later line is one line further in the rest. -/
theorem offsetOf_break {text ending : Text} (hlines : rawLines text = ending :: rawLines rest)
    (column : Nat) :
    offsetOf text ⟨0, column⟩ = charColumn (dropLineFeed ending) column ∧
      ∀ line, offsetOf text ⟨line + 1, column⟩ =
        ending.length + offsetOf rest ⟨line, column⟩ := by
  refine ⟨?_, fun line => ?_⟩
  · rw [offsetOf_eq, hlines, offsetAmong]
  · rw [offsetOf_eq, offsetOf_eq, hlines, offsetAmong]

/-- In front of a character that ends no line of a document there is one column more on the first
line. -/
theorem offsetOf_inner (hplain : isBreak c = false) (column : Nat) :
    offsetOf (c :: rest) ⟨0, column⟩ =
        (if column = 0 then 0 else offsetOf rest ⟨0, column - Text.utf16Width c⟩ + 1) ∧
      ∀ line, offsetOf (c :: rest) ⟨line + 1, column⟩ =
        offsetOf rest ⟨line + 1, column⟩ + 1 := by
  obtain ⟨first, lines, hrest⟩ := exists_rawLines_eq rest
  have hlines : rawLines (c :: rest) = (c :: first) :: lines := by
    rw [rawLines_cons hplain, hrest, consLine_cons hplain]
  refine ⟨?_, fun line => ?_⟩
  · rw [offsetOf_eq, offsetOf_eq, hlines, hrest, offsetAmong, offsetAmong,
      dropLineFeed_cons hplain, charColumn]
  · rw [offsetOf_eq, offsetOf_eq, hlines, hrest, offsetAmong, offsetAmong, List.length_cons]
    exact Nat.add_right_comm _ _ _

/-- The first column is in front of all characters. -/
theorem charColumn_zero (line : Text) : charColumn line 0 = 0 := by
  cases line <;> rfl

/-- The start of a document is its first offset. -/
theorem offsetOf_start (text : Text) : offsetOf text ⟨0, 0⟩ = 0 := by
  obtain ⟨line, lines, heq⟩ := exists_rawLines_eq text
  rw [offsetOf_eq, heq, offsetAmong]
  exact charColumn_zero _

/-- The start of a document is its first offset in the protocol. -/
theorem editorOffset_start (text : Text) : editorOffset text ⟨0, 0⟩ = 0 := by
  obtain ⟨line, lines, heq⟩ := exists_editorLines_eq text
  simp [editorOffset, heq, editorColumn_eq, charColumn_zero]

/-- A column is at most the length of its line. -/
theorem charColumn_le (line : Text) (units : Nat) : charColumn line units ≤ line.length := by
  induction line generalizing units with
  | nil => exact Nat.le_refl 0
  | cons c line ih =>
    rw [charColumn, List.length_cons]
    split
    · exact Nat.zero_le _
    · exact Nat.succ_le_succ (ih _)

/-- Dropping a break leaves no more characters. -/
theorem length_dropLineFeed_le (line : Text) : (dropLineFeed line).length ≤ line.length := by
  obtain ⟨front, rfl⟩ : ∃ front, line = front.reverse := ⟨line.reverse, by simp⟩
  unfold dropLineFeed
  rw [List.reverse_reverse]
  split <;> simp +arith

/-- An offset is at most the length of the document. -/
theorem offsetOf_le (text : Text) (position : Position) :
    offsetOf text position ≤ text.length := by
  have hlines (lines : List Text) (line column : Nat) :
      offsetAmong lines line column ≤ lines.flatten.length := by
    induction lines generalizing line with
    | nil => exact Nat.le_refl 0
    | cons first lines ih =>
      rw [List.flatten_cons, List.length_append]
      cases line with
      | zero =>
        have hcolumn := charColumn_le (dropLineFeed first) column
        have hdrop := length_dropLineFeed_le first
        rw [offsetAmong]
        omega
      | succ line => exact Nat.add_le_add_left (ih line) _
  rw [offsetOf_eq]
  conv => rhs; rw [← flatten_rawLines text]
  exact hlines _ _ _

/-- In front of a character that ends no line the bound of an offset grows with the document. -/
theorem editorOffset_inner_le (hinner : ¬(c = '\n' ∨ c = '\r'))
    (hrest : ∀ line column, editorOffset rest ⟨line, column⟩ ≤ rest.length) (line column : Nat) :
    editorOffset (c :: rest) ⟨line, column⟩ ≤ (c :: rest).length := by
  cases line with
  | zero =>
    rw [(editorOffset_inner hinner column).1]
    split
    · exact Nat.zero_le _
    · exact Nat.succ_le_succ (hrest _ _)
  | succ line =>
    rw [(editorOffset_inner hinner column).2]
    exact Nat.succ_le_succ (hrest _ _)

/-- In front of a break the bound of an offset grows with the document. -/
theorem editorOffset_break_le {text ending : Text}
    (hlines : editorLines text = ⟨[], ending⟩ :: editorLines rest)
    (hlength : text.length = ending.length + rest.length)
    (hrest : ∀ line column, editorOffset rest ⟨line, column⟩ ≤ rest.length) (line column : Nat) :
    editorOffset text ⟨line, column⟩ ≤ text.length := by
  cases line with
  | zero =>
    rw [(editorOffset_break hlines hlength column).1]
    exact Nat.zero_le _
  | succ line =>
    rw [(editorOffset_break hlines hlength column).2, hlength]
    exact Nat.add_le_add_left (hrest _ _) _

/-- An offset of the protocol is at most the length of the document. -/
theorem editorOffset_le (text : Text) (line column : Nat) :
    editorOffset text ⟨line, column⟩ ≤ text.length := by
  induction text using breaks_induction generalizing line column with
  | nil => cases line <;> simp [editorOffset, editorLines, editorColumn]
  | pair rest ih => exact editorOffset_break_le editorLines_pair (by simp +arith) ih line column
  | alone c rest hbreak halone ih =>
    by_cases hends : c = '\n' ∨ c = '\r'
    · have hlines := editorLines_alone hends halone
      exact editorOffset_break_le hlines (by simp +arith) ih line column
    · exact editorOffset_inner_le hends ih line column
  | plain c rest hplain ih =>
    exact editorOffset_inner_le (not_feed_or_return hplain) ih line column

/-- An empty document has one offset. -/
theorem offsetOf_nil (position : Position) : offsetOf [] position = 0 :=
  Nat.le_zero.mp (offsetOf_le [] position)

/-- An empty document has one offset in the protocol. -/
theorem editorOffset_nil (position : Position) : editorOffset [] position = 0 :=
  Nat.le_zero.mp (editorOffset_le [] position.line position.column)

/-! ## Where the breaks agree -/

/-- There is nothing to agree on in an empty text. -/
theorem breaksAgree_nil : BreaksAgree [] := by
  rintro (_ | _) c rest heq <;> cases heq

/-- The breaks of a text are its first character, if that is one, and those of the rest. -/
theorem breaksAgree_cons :
    BreaksAgree (c :: rest) ↔
      (isBreak c = true →
        c = '\n' ∨ (c = '\r' ∧ rest.head? = some '\n') ∨ (c ≠ '\r' ∧ rest = [])) ∧
      BreaksAgree rest := by
  constructor
  · intro hagree
    refine ⟨hagree [] c rest rfl, fun front d tail heq => ?_⟩
    exact hagree (c :: front) d tail (by rw [heq, List.cons_append])
  · rintro ⟨hfirst, hrest⟩ front d tail heq
    cases front with
    | nil =>
      obtain ⟨rfl, rfl⟩ := List.cons.inj heq
      exact hfirst
    | cons e front => exact hrest front d tail (List.cons.inj heq).2

/-- Whether the breaks agree is found by walking along the text. -/
instance decidableBreaksAgree : (text : Text) → Decidable (BreaksAgree text)
  | [] => isTrue breaksAgree_nil
  | _ :: rest =>
    have := decidableBreaksAgree rest
    decidable_of_iff _ breaksAgree_cons.symm

/-- The offsets of all positions are those of the protocol. -/
def OffsetsAgree (text : Text) : Prop :=
  ∀ position, offsetOf text position = editorOffset text position

/-- A break that both know in the same way can be taken from the start. -/
theorem offsetsAgree_break {text ending : Text} (hlines : rawLines text = ending :: rawLines rest)
    (heditor : editorLines text = ⟨[], ending⟩ :: editorLines rest)
    (hlength : text.length = ending.length + rest.length) (hdrop : dropLineFeed ending = []) :
    OffsetsAgree text ↔ OffsetsAgree rest := by
  constructor
  · rintro hagree ⟨line, column⟩
    have hnext := hagree ⟨line + 1, column⟩
    rw [(offsetOf_break hlines column).2, (editorOffset_break heditor hlength column).2] at hnext
    exact Nat.add_left_cancel hnext
  · rintro hagree ⟨_ | line, column⟩
    · rw [(offsetOf_break hlines column).1, (editorOffset_break heditor hlength column).1, hdrop]
      rfl
    · rw [(offsetOf_break hlines column).2, (editorOffset_break heditor hlength column).2, hagree]

/-- A character that ends no line can be taken from the start. -/
theorem offsetsAgree_inner (hplain : isBreak c = false) :
    OffsetsAgree (c :: rest) ↔ OffsetsAgree rest := by
  have hinner := not_feed_or_return hplain
  constructor
  · rintro hagree ⟨_ | line, column⟩
    · have hwidth := Text.utf16Width_pos c
      have hnext := hagree ⟨0, column + Text.utf16Width c⟩
      rw [(offsetOf_inner hplain _).1, (editorOffset_inner hinner _).1, if_neg (by omega),
        if_neg (by omega), Nat.add_sub_cancel] at hnext
      exact Nat.add_right_cancel hnext
    · have hnext := hagree ⟨line + 1, column⟩
      rw [(offsetOf_inner hplain _).2, (editorOffset_inner hinner _).2] at hnext
      exact Nat.add_right_cancel hnext
  · rintro hagree ⟨_ | line, column⟩
    · rw [(offsetOf_inner hplain _).1, (editorOffset_inner hinner _).1, hagree]
    · rw [(offsetOf_inner hplain _).2, (editorOffset_inner hinner _).2, hagree]

/-- A carriage return without a line feed can be passed within its line, but not in the
protocol. -/
theorem not_offsetsAgree_return (halone : rest.head? ≠ some '\n') :
    ¬OffsetsAgree ('\r' :: rest) := by
  intro hagree
  have hlines : rawLines ('\r' :: rest) = ['\r'] :: rawLines rest :=
    rawLines_break rfl fun _ => halone
  have heditor : editorLines ('\r' :: rest) = ⟨[], ['\r']⟩ :: editorLines rest :=
    editorLines_alone (Or.inr rfl) fun _ => halone
  -- Only a line feed is dropped, so in the document the return counts as a column of its line.
  have hcolumn := hagree ⟨0, 1⟩
  rw [(offsetOf_break hlines 1).1,
    (editorOffset_break heditor (by simp +arith) 1).1] at hcolumn
  cases hcolumn

/-- The second line of the protocol does not start at the start. -/
theorem editorOffset_second_pos (hrest : rest ≠ []) : 0 < editorOffset rest ⟨1, 0⟩ := by
  obtain ⟨c, rest, rfl⟩ := List.exists_cons_of_ne_nil hrest
  by_cases hinner : c = '\n' ∨ c = '\r'
  · by_cases hpair : c = '\r' ∧ rest.head? = some '\n'
    · obtain ⟨rfl, hhead⟩ := hpair
      obtain ⟨rest, rfl⟩ := List.head?_eq_some_iff.mp hhead
      rw [(editorOffset_break editorLines_pair (by simp +arith) 0).2]
      exact Nat.add_pos_left (by decide) _
    · have hlines := editorLines_alone hinner fun hreturn hhead => hpair ⟨hreturn, hhead⟩
      rw [(editorOffset_break hlines (by simp +arith) 0).2]
      exact Nat.add_pos_left Nat.one_pos _
  · rw [(editorOffset_inner hinner 0).2]
    exact Nat.succ_pos _

/-- A break that the protocol does not know agrees only at the end. -/
theorem offsetsAgree_unknown (hbreak : isBreak c = true) (hinner : ¬(c = '\n' ∨ c = '\r')) :
    OffsetsAgree (c :: rest) ↔ rest = [] := by
  have hreturn : c ≠ '\r' := fun heq => hinner (Or.inr heq)
  have hlines : rawLines (c :: rest) = [c] :: rawLines rest :=
    rawLines_break hbreak fun heq => absurd heq hreturn
  constructor
  · intro hagree
    refine Classical.byContradiction fun hrest => ?_
    -- A second line starts right behind the break, but in the protocol behind a later one.
    have hpos := editorOffset_second_pos hrest
    have hline : offsetOf (c :: rest) ⟨1, 0⟩ = 1 + offsetOf rest ⟨0, 0⟩ :=
      (offsetOf_break hlines 0).2 0
    have heditor : editorOffset (c :: rest) ⟨1, 0⟩ = editorOffset rest ⟨1, 0⟩ + 1 :=
      (editorOffset_inner hinner 0).2 0
    rw [hagree, heditor, offsetOf_start] at hline
    omega
  · rintro rfl ⟨_ | line, column⟩
    · have hdrop : dropLineFeed [c] = [c] := by
        have hfeed : c ≠ '\n' := fun heq => hinner (Or.inl heq)
        simp [dropLineFeed, hfeed]
      rw [(offsetOf_break hlines column).1, (editorOffset_inner hinner column).1, hdrop, charColumn]
      by_cases hzero : column = 0
      · rw [if_pos hzero, if_pos hzero]
      · rw [if_neg hzero, if_neg hzero]
        rw [editorOffset_nil]
        rfl
    · rw [(offsetOf_break hlines column).2, (editorOffset_inner hinner column).2, offsetOf_nil,
        editorOffset_nil]
      rfl

/-- The offsets are those of the protocol exactly when the breaks are. -/
theorem offsetsAgree_iff (text : Text) : OffsetsAgree text ↔ BreaksAgree text := by
  induction text using breaks_induction with
  | nil =>
    refine ⟨fun _ => breaksAgree_nil, fun _ position => ?_⟩
    rw [offsetOf_nil, editorOffset_nil]
  | pair rest ih =>
    have htail : OffsetsAgree ('\r' :: '\n' :: rest) ↔ OffsetsAgree rest :=
      offsetsAgree_break rawLines_pair editorLines_pair (by simp +arith) rfl
    rw [htail, ih, breaksAgree_cons, breaksAgree_cons]
    simp
  | alone c rest hbreak halone ih =>
    by_cases hreturn : c = '\r'
    · subst hreturn
      have hfirst := halone rfl
      simp [not_offsetsAgree_return hfirst, breaksAgree_cons, hbreak, hfirst]
    · by_cases hfeed : c = '\n'
      · subst hfeed
        have hlines := editorLines_alone (Or.inl rfl) halone
        rw [offsetsAgree_break (rawLines_break hbreak halone) hlines (by simp +arith) rfl, ih,
          breaksAgree_cons]
        simp
      · rw [offsetsAgree_unknown hbreak (by simp [hfeed, hreturn]), breaksAgree_cons]
        simp only [hbreak, hfeed, hreturn, false_and, false_or, ne_eq, not_false_eq_true, true_and,
          forall_const]
        constructor
        · rintro rfl
          exact ⟨rfl, breaksAgree_nil⟩
        · exact And.left
  | plain c rest hplain ih =>
    rw [offsetsAgree_inner hplain, ih, breaksAgree_cons]
    simp [hplain]

/-! ## Changes -/

/-- A change does what the protocol prescribes where the offsets are those of the protocol. -/
theorem apply_eq_editorApply {text : Text} (hagree : OffsetsAgree text) (change : Change) :
    apply text change = editorApply text change := by
  unfold apply editorApply
  cases change.range with
  | none => rfl
  | some range => simp only [hagree range.start, hagree range.stop]

/-- Cutting a document off its start shows the offset at which the cut ends. -/
theorem offsetsAgree_of_apply {text : Text}
    (hchanges : ∀ change, apply text change = editorApply text change) : OffsetsAgree text := by
  intro position
  -- What is left has lost as many characters as the offset says, on both sides.
  have hcut := congrArg List.length (hchanges ⟨some ⟨⟨0, 0⟩, position⟩, []⟩)
  have hoffset := offsetOf_le text position
  have heditor : editorOffset text position ≤ text.length := editorOffset_le _ _ _
  simp only [apply, editorApply, replace, offsetOf_start, editorOffset_start, List.take_zero,
    List.append_nil, List.nil_append, List.length_drop, Nat.zero_max] at hcut
  omega

/-- A run of changes through documents with the breaks of the protocol ends in the document of the
editor. -/
theorem foldl_apply_eq (text : Text) (changes : List Change)
    (hagree : ∀ count < changes.length,
      BreaksAgree ((changes.take count).foldl editorApply text)) :
    changes.foldl apply text = changes.foldl editorApply text := by
  induction changes generalizing text with
  | nil => rfl
  | cons change changes ih =>
    have hfirst : BreaksAgree text := hagree 0 (Nat.succ_pos _)
    rw [List.foldl_cons, List.foldl_cons,
      apply_eq_editorApply ((offsetsAgree_iff text).mpr hfirst)]
    exact ih _ fun count hcount => hagree (count + 1) (Nat.succ_lt_succ hcount)

/-- Only line feeds break the lines of a text. -/
def OnlyLineFeeds (text : Text) : Prop := ∀ c ∈ text, isBreak c = true → c = '\n'

/-- A change brings no break but those of its own text. -/
theorem onlyLineFeeds_editorApply {text : Text} {change : Change} (htext : OnlyLineFeeds text)
    (hchange : OnlyLineFeeds change.text) : OnlyLineFeeds (editorApply text change) := by
  intro c hmem
  unfold editorApply replace at hmem
  split at hmem
  · exact hchange c hmem
  · simp only [List.mem_append] at hmem
    rcases hmem with (htake | hnew) | hdrop
    · exact htext c (List.mem_of_mem_take htake)
    · exact hchange c hnew
    · exact htext c (List.mem_of_mem_drop hdrop)

/-- As long as only line feeds come into it, a document stays that of the editor. -/
theorem foldl_apply_of_onlyLineFeeds {text : Text} {changes : List Change}
    (htext : OnlyLineFeeds text) (hchanges : ∀ change ∈ changes, OnlyLineFeeds change.text) :
    changes.foldl apply text = changes.foldl editorApply text := by
  apply foldl_apply_eq
  intro count _
  have hpassed : OnlyLineFeeds ((changes.take count).foldl editorApply text) := by
    refine List.foldlRecOn _ _ htext fun passed hpassed change hmem => ?_
    exact onlyLineFeeds_editorApply hpassed (hchanges change (List.mem_of_mem_take hmem))
  rintro front c rest heq hbreak
  exact Or.inl (hpassed c (by simp [heq]) hbreak)

/-- A document takes every change as the protocol prescribes exactly when its breaks are those of
the protocol, and a run of changes through such documents ends in the document of the editor. -/
theorem apply_follows_protocol_iff (text : Text) (changes : List Change) :
    ((∀ change, apply text change = editorApply text change) ↔ BreaksAgree text) ∧
      ((∀ count < changes.length, BreaksAgree ((changes.take count).foldl editorApply text)) →
        changes.foldl apply text = changes.foldl editorApply text) := by
  refine ⟨?_, foldl_apply_eq text changes⟩
  rw [← offsetsAgree_iff]
  exact ⟨offsetsAgree_of_apply, apply_eq_editorApply⟩

/-- Two changes of a document with both breaks of the protocol. -/
theorem apply_follows_protocol_twice :
    [⟨some ⟨⟨0, 3⟩, ⟨1, 1⟩⟩, ['x', '\n']⟩, ⟨some ⟨⟨1, 0⟩, ⟨2, 0⟩⟩, ['y']⟩].foldl apply
        "a\r\nb\nc".toList =
      [⟨some ⟨⟨0, 3⟩, ⟨1, 1⟩⟩, ['x', '\n']⟩, ⟨some ⟨⟨1, 0⟩, ⟨2, 0⟩⟩, ['y']⟩].foldl editorApply
        "a\r\nb\nc".toList :=
  (apply_follows_protocol_iff _ _).2 (by decide)

/-- Behind a line separator a change falls on another line than the editor meant. -/
theorem apply_misses_protocol :
    apply "a\u2028b\nc".toList ⟨some ⟨⟨1, 0⟩, ⟨1, 1⟩⟩, ['X']⟩ = "a\u2028X\nc".toList ∧
      editorApply "a\u2028b\nc".toList ⟨some ⟨⟨1, 0⟩, ⟨1, 1⟩⟩, ['X']⟩ =
        "a\u2028b\nX".toList := by
  decide

end LuaAssist.Document

import LuaAssist.Proofs.Document.Lines
import LuaAssist.Proofs.Text.Pieces

/-!
# Documents written line by line

A document of given lines, each ended by a line feed, with one more line that is not ended.
While somebody types, this is the line that is typed on.
-/

namespace LuaAssist.Document

/-- A text with no break in it. -/
def Unbroken (line : Text) : Prop := ∀ c ∈ line, isBreak c = false

instance (line : Text) : Decidable (Unbroken line) := inferInstanceAs (Decidable (∀ c ∈ line, _))

/-- Lines, each ended by a line feed. -/
def ended (lines : List Text) : Text := (lines.map (· ++ ['\n'])).flatten

/-- No lines make no text. -/
@[simp] theorem ended_nil : ended [] = [] := rfl

/-- A line is ended by a line feed. -/
@[simp] theorem ended_cons (line : Text) (lines : List Text) :
    ended (line :: lines) = line ++ '\n' :: ended lines := by
  simp [ended]

/-- Lines are ended one after the other. -/
theorem ended_append (lines others : List Text) :
    ended (lines ++ others) = ended lines ++ ended others := by
  simp [ended]

/-- Joined lines are ended but for the last one. -/
theorem join_concat (lines : List Text) (last : Text) :
    Text.join ['\n'] (lines ++ [last]) = ended lines ++ last := by
  rw [Text.join_append_singleton, List.flatMap_def, ended]

variable {lines : List Text} {last : Text}

/-- A line that is not ended is the only one. -/
theorem rawLines_of_unbroken (hlast : Unbroken last) : rawLines last = [last] := by
  induction last with
  | nil => rfl
  | cons c rest ih =>
    rw [Unbroken, List.forall_mem_cons] at hlast
    rw [rawLines_cons hlast.1, ih hlast.2, consLine_cons hlast.1]

/-- A line that is ended, and the lines behind it. -/
theorem rawLines_append_feed {line : Text} (hline : Unbroken line) (rest : Text) :
    rawLines (line ++ '\n' :: rest) = (line ++ ['\n']) :: rawLines rest := by
  induction line with
  | nil => exact rawLines_break (by decide) nofun
  | cons c line ih =>
    rw [Unbroken, List.forall_mem_cons] at hline
    rw [List.cons_append, rawLines_cons hline.1, ih hline.2, consLine_cons hline.1]
    rfl

/-- The lines of a document that is written line by line, with their line feeds. -/
theorem rawLines_ended (hlines : ∀ line ∈ lines, Unbroken line) (hlast : Unbroken last) :
    rawLines (ended lines ++ last) = lines.map (· ++ ['\n']) ++ [last] := by
  induction lines with
  | nil => exact rawLines_of_unbroken hlast
  | cons line lines ih =>
    rw [List.forall_mem_cons] at hlines
    rw [ended_cons, List.append_assoc, List.cons_append, rawLines_append_feed hlines.1,
      ih hlines.2]
    rfl

/-- An unbroken line has no line feed to drop. -/
theorem dropLineFeed_of_unbroken {line : Text} (hline : Unbroken line) :
    dropLineFeed line = line := by
  induction line with
  | nil => rfl
  | cons c line ih =>
    rw [Unbroken, List.forall_mem_cons] at hline
    rw [dropLineFeed_cons hline.1, ih hline.2]

/-- The line feed behind an unbroken line is all that is dropped. -/
theorem dropLineFeed_append_feed {line : Text} (hline : Unbroken line) :
    dropLineFeed (line ++ ['\n']) = line := by
  induction line with
  | nil => rfl
  | cons c line ih =>
    rw [Unbroken, List.forall_mem_cons] at hline
    rw [List.cons_append, dropLineFeed_cons hline.1, ih hline.2]

/-- The texts of the lines of such a document. -/
theorem lineTexts_ended (hlines : ∀ line ∈ lines, Unbroken line) (hlast : Unbroken last) :
    lineTexts (ended lines ++ last) = lines ++ [last] := by
  have hdrop : lines.map (dropLineFeed ∘ (· ++ ['\n'])) = lines.map id :=
    List.map_congr_left fun line hline => dropLineFeed_append_feed (hlines line hline)
  rw [lineTexts, rawLines_ended hlines hlast, List.map_append, List.map_map, List.map_singleton,
    dropLineFeed_of_unbroken hlast, hdrop, List.map_id]

/-- Such a document has one line more than lines are ended. -/
theorem lineCount_ended (hlines : ∀ line ∈ lines, Unbroken line) (hlast : Unbroken last) :
    lineCount (ended lines ++ last) = lines.length + 1 := by
  rw [lineCount, rawLines_ended hlines hlast]
  simp

/-- An unbroken text joins the first line of what follows it. -/
theorem rawLines_append_unbroken {front rest line : Text} {lines : List Text}
    (hfront : Unbroken front) (hrest : rawLines rest = line :: lines) :
    rawLines (front ++ rest) = (front ++ line) :: lines := by
  induction front with
  | nil => exact hrest
  | cons c front ih =>
    rw [Unbroken, List.forall_mem_cons] at hfront
    rw [List.cons_append, rawLines_cons hfront.1, ih hfront.2, consLine_cons hfront.1]
    rfl

/-- An unbroken text in front of a line stays when the line feed is dropped. -/
theorem dropLineFeed_append_unbroken {front : Text} (hfront : Unbroken front) (line : Text) :
    dropLineFeed (front ++ line) = front ++ dropLineFeed line := by
  induction front with
  | nil => rfl
  | cons c front ih =>
    rw [Unbroken, List.forall_mem_cons] at hfront
    rw [List.cons_append, dropLineFeed_cons hfront.1, ih hfront.2, List.cons_append]

/-- The texts of the lines when an unbroken text joins the first of them. -/
theorem exists_lineTexts_append {front : Text} (hfront : Unbroken front) (rest : Text) :
    ∃ first others, lineTexts rest = first :: others ∧ first <+: rest ∧
      lineTexts (front ++ rest) = (front ++ first) :: others := by
  obtain ⟨line, lines, hrest⟩ := exists_rawLines_eq rest
  refine ⟨dropLineFeed line, lines.map dropLineFeed, by rw [lineTexts, hrest]; rfl, ?_, ?_⟩
  · refine (prefix_dropLineFeed line).trans ?_
    rw [← flatten_rawLines rest, hrest, List.flatten_cons]
    exact List.prefix_append _ _
  · rw [lineTexts, rawLines_append_unbroken hfront hrest, List.map_cons,
      dropLineFeed_append_unbroken hfront]

/-- What stands above a line has the lines above it, and an empty one behind them. -/
theorem rawLines_take_lineStart {text : Text} {number : Nat} (hnumber : number < lineCount text) :
    rawLines (text.take (lineStart text number)) = (rawLines text).take number ++ [[]] := by
  rw [take_lineStart]
  rw [lineCount] at hnumber
  induction text using breaks_induction generalizing number with
  | nil =>
    rw [rawLines, List.length_singleton, Nat.lt_one_iff] at hnumber
    rw [hnumber]
    rfl
  | pair rest ih =>
    cases number with
    | zero => rfl
    | succ number =>
      rw [rawLines_pair, List.take_succ_cons, List.flatten_cons]
      simp [rawLines_pair, ih (Nat.lt_of_succ_lt_succ hnumber)]
  | alone c rest hbreak halone ih =>
    cases number with
    | zero => rfl
    | succ number =>
      have hhead : c = '\r' → ((rawLines rest).take number).flatten.head? ≠ some '\n' := by
        intro hreturn hfeed
        obtain ⟨behind, hbehind⟩ := List.head?_eq_some_iff.mp hfeed
        refine halone hreturn ?_
        rw [← List.take_append_drop (lineStart rest number) rest, take_lineStart, hbehind]
        rfl
      rw [rawLines_break hbreak halone] at hnumber ⊢
      rw [List.take_succ_cons, List.flatten_cons, List.singleton_append,
        rawLines_break hbreak hhead, ih (Nat.lt_of_succ_lt_succ hnumber), List.cons_append]
  | plain c rest hplain ih =>
    obtain ⟨first, others, hrest⟩ := exists_rawLines_eq rest
    rw [rawLines_cons hplain, hrest, consLine_cons hplain] at hnumber ⊢
    rw [hrest] at ih
    cases number with
    | zero => rfl
    | succ number =>
      have hmore := ih hnumber
      rw [List.take_succ_cons, List.flatten_cons] at hmore ⊢
      rw [List.cons_append, rawLines_cons hplain, hmore, List.cons_append,
        consLine_cons hplain]
      rfl

/-- The texts of the lines above a line, and of the empty one behind them. -/
theorem lineTexts_take_lineStart {text : Text} {number : Nat} (hnumber : number < lineCount text) :
    lineTexts (text.take (lineStart text number)) = (lineTexts text).take number ++ [[]] := by
  rw [lineTexts, rawLines_take_lineStart hnumber, List.map_append, lineTexts, List.map_take]
  rfl

/-- The line that is not ended is the last one. -/
theorem lineText_ended (hlines : ∀ line ∈ lines, Unbroken line) (hlast : Unbroken last) :
    lineText (ended lines ++ last) lines.length = last := by
  rw [lineText, rawLines_ended hlines hlast]
  simp [dropLineFeed_of_unbroken hlast]

/-- It starts behind all that is ended. -/
theorem lineStart_ended (hlines : ∀ line ∈ lines, Unbroken line) (hlast : Unbroken last) :
    lineStart (ended lines ++ last) lines.length = (ended lines).length := by
  rw [lineStart, rawLines_ended hlines hlast]
  simp [ended]

end LuaAssist.Document

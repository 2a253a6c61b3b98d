import LuaAssist.Indent.Typing
import LuaAssist.Text.Blank

/-!
# Columns of an indentation

Columns are counted in 32 bits, and all that are read or asked for lie in this range. There blanks
reach the column that they are written for, with tabs of any size, and nothing but these blanks is
the indentation of a line whose text begins with another character.
-/

namespace LuaAssist.Indent

open Lexer (isSpace)

/-- A character of an indentation. -/
def isIndent (c : Char) : Bool := c = ' ' || c = '\t'

/-- Blanks are made of spaces and tabs. -/
theorem isIndent_of_mem_blanks {target : Nat} {style : Style} :
    ∀ c ∈ blanks target style, isIndent c = true := by
  intro c hc
  unfold blanks at hc
  split at hc
  · rw [List.eq_of_mem_replicate hc]
    rfl
  · rcases List.mem_append.mp hc with hc | hc <;> rw [List.eq_of_mem_replicate hc] <;> rfl

/-- They separate tokens. -/
theorem isSpace_of_isIndent {c : Char} (hc : isIndent c = true) : isSpace c = true := by
  simp only [isIndent, Bool.or_eq_true, decide_eq_true_eq] at hc
  rcases hc with rfl | rfl <;> decide

/-- They are trimmed. -/
theorem isBlank_of_isIndent {c : Char} (hc : isIndent c = true) : Text.isBlank c = true := by
  simp only [isIndent, Bool.or_eq_true, decide_eq_true_eq] at hc
  rcases hc with rfl | rfl <;> decide

/-- They end no line. -/
theorem isBreak_of_isIndent {c : Char} (hc : isIndent c = true) :
    Document.isBreak c = false := by
  simp only [isIndent, Bool.or_eq_true, decide_eq_true_eq] at hc
  rcases hc with rfl | rfl <;> decide

/-- No blanks are needed for the first column. -/
theorem blanks_zero (style : Style) : blanks 0 style = [] := by
  unfold blanks
  split <;> simp

/-! ## Counting in 32 bits -/

/-- A count stays in its 32 bits. -/
theorem wrap_lt (column : Nat) : wrap column < columnCount := Nat.mod_lt _ (by decide)

/-- A count that fits is kept. -/
theorem wrap_of_lt {column : Nat} (hcolumn : column < columnCount) : wrap column = column :=
  Nat.mod_eq_of_lt hcolumn

/-- What is counted on from may start again before or after. -/
theorem wrap_wrap_add (column more : Nat) : wrap (wrap column + more) = wrap (column + more) :=
  Nat.mod_add_mod _ _ _

/-- What blanks reach is a column. -/
theorem columnFrom_lt (tabSize : Nat) {column : Nat} (hcolumn : column < columnCount)
    (text : Text) : columnFrom tabSize column text < columnCount := by
  induction text generalizing column with
  | nil => exact hcolumn
  | cons c rest ih =>
    rw [columnFrom]
    split
    · exact ih (wrap_lt _)
    split
    · exact ih (wrap_lt _)
    · exact hcolumn

/-- Every line stands at a column of 32 bits. -/
theorem column_lt (line : Text) (tabSize : Nat) : column line tabSize < columnCount :=
  columnFrom_lt _ (by decide) line

/-- Every new line is begun at one. -/
theorem newLineColumn_lt (text : Text) (line : Nat) (style : Style) :
    newLineColumn text line style < columnCount := by
  unfold newLineColumn
  dsimp only
  split
  · decide
  · exact wrap_lt _

/-- Every line that ends a block is aligned to one. -/
theorem closingColumn?_lt {text : Text} {line target : Nat} {style : Style}
    (htarget : closingColumn? text line style = some target) : target < columnCount := by
  unfold closingColumn? at htarget
  dsimp only at htarget
  split at htarget
  · cases htarget
  · obtain ⟨found, -, rfl⟩ := Option.map_eq_some_iff.mp htarget
    exact column_lt found style.tabSize

/-- Every column that is asked for is one. -/
theorem target?_lt {text typed : Text} {line target : Nat} {style : Style}
    (htarget : target? text line typed style = some target) : target < columnCount := by
  unfold target? at htarget
  split at htarget
  · exact closingColumn?_lt htarget
  split at htarget
  · rw [← Option.some.inj htarget]
    exact newLineColumn_lt text line style
  · cases htarget

/-! ## Blanks -/

/-- Spaces count one column each. -/
theorem columnFrom_spaces (tabSize : Nat) {column count : Nat}
    (hfits : column + count < columnCount) (text : Text) :
    columnFrom tabSize column (List.replicate count ' ' ++ text) =
      columnFrom tabSize (column + count) text := by
  induction count generalizing column with
  | zero => simp
  | succ count ih =>
    rw [List.replicate_succ, List.cons_append, columnFrom, if_pos rfl, wrap_of_lt (by omega),
      ih (by omega)]
    congr 1
    omega

/-- Tabs behind tabs reach multiples of their size. -/
theorem columnFrom_tabs (tabSize before count : Nat)
    (hfits : (before + count) * tabSize < columnCount) (text : Text) :
    columnFrom tabSize (before * tabSize) (List.replicate count '\t' ++ text) =
      columnFrom tabSize ((before + count) * tabSize) text := by
  induction count generalizing before with
  | zero => simp
  | succ count ih =>
    have hnext : before * tabSize + (tabSize - before * tabSize % tabSize) =
        (before + 1) * tabSize := by
      rw [Nat.mul_mod_left, Nat.sub_zero, Nat.succ_mul]
    have hsame : before + (count + 1) = before + 1 + count := by omega
    have hfront : (before + 1) * tabSize ≤ (before + (count + 1)) * tabSize :=
      Nat.mul_le_mul_right _ (by omega)
    rw [List.replicate_succ, List.cons_append, columnFrom, if_neg (by decide), if_pos rfl,
      hnext, wrap_of_lt (Nat.lt_of_le_of_lt hfront hfits), ih _ (hsame ▸ hfits), hsame]

/-- A text that does not begin with an indentation. -/
def Unindented (text : Text) : Prop := text.head?.any isIndent = false

instance (text : Text) : Decidable (Unindented text) := inferInstanceAs (Decidable (_ = false))

/-- Nor does the front of such a text. -/
theorem Unindented.front {text behind : Text} (htext : Unindented (text ++ behind)) :
    Unindented text := by
  cases text with
  | nil => rfl
  | cons c rest => exact htext

/-- A text without indentation stands at the column that it is reached from. -/
theorem columnFrom_unindented {text : Text} (htext : Unindented text) (tabSize column : Nat) :
    columnFrom tabSize column text = column := by
  cases text with
  | nil => rfl
  | cons c rest =>
    have hc : isIndent c = false := htext
    simp only [isIndent, Bool.or_eq_false_iff, decide_eq_false_iff_not] at hc
    rw [columnFrom, if_neg hc.1, if_neg hc.2]

/-- Blanks reach the column that they are written for. -/
theorem column_blanks {text : Text} (htext : Unindented text) {target : Nat}
    (htarget : target < columnCount) (style : Style) :
    column (blanks target style ++ text) style.tabSize = target := by
  unfold column blanks
  split
  · rw [columnFrom_spaces _ (by omega), columnFrom_unindented htext, Nat.zero_add]
  · have hwhole : target / max style.tabSize 1 * max style.tabSize 1 +
        target % max style.tabSize 1 = target := Nat.div_add_mod' _ _
    have htabs := columnFrom_tabs (max style.tabSize 1) 0 (target / max style.tabSize 1)
      (by rw [Nat.zero_add]; omega) (List.replicate (target % max style.tabSize 1) ' ' ++ text)
    rw [Nat.zero_mul, Nat.zero_add] at htabs
    rw [List.append_assoc, htabs, columnFrom_spaces _ (by omega), columnFrom_unindented htext,
      hwhole]

/-- The indentation of a line is what is written in front of its text. -/
theorem takeWhile_isIndent {front text : Text} (hfront : ∀ c ∈ front, isIndent c = true)
    (htext : Unindented text) :
    (front ++ text).takeWhile (fun c => c = ' ' || c = '\t') = front := by
  have hstop : text.takeWhile isIndent = [] := by
    cases text with
    | nil => rfl
    | cons c rest =>
      have hc : isIndent c = false := htext
      rw [List.takeWhile_cons_of_neg (by simp [hc])]
  change (front ++ text).takeWhile isIndent = front
  rw [List.takeWhile_append_of_pos hfront, hstop, List.append_nil]

/-- The text of a line is what is written behind its indentation. -/
theorem dropWhile_isIndent {front text : Text} (hfront : ∀ c ∈ front, isIndent c = true)
    (htext : Unindented text) : (front ++ text).dropWhile isIndent = text := by
  rw [List.dropWhile_append_of_pos hfront]
  cases text with
  | nil => rfl
  | cons c rest =>
    have hc : isIndent c = false := htext
    rw [List.dropWhile_cons_of_neg (by simp [hc])]

/-- An indentation has as many units as characters. -/
theorem utf16Length_of_isIndent {text : Text} (htext : ∀ c ∈ text, isIndent c = true) :
    Text.utf16Length text = text.length := by
  induction text with
  | nil => rfl
  | cons c rest ih =>
    rw [List.forall_mem_cons] at htext
    have hwidth : Text.utf16Width c = 1 := by
      have hc := htext.1
      simp only [isIndent, Bool.or_eq_true, decide_eq_true_eq] at hc
      rcases hc with rfl | rfl <;> decide
    rw [Text.utf16Length, hwidth, ih htext.2, List.length_cons, Nat.add_comm]

end LuaAssist.Indent

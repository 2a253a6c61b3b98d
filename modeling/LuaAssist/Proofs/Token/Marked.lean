import LuaAssist.Proofs.Text.Pieces
import LuaAssist.Proofs.Token.Partition
import LuaAssist.Token.Highlight

/-!
# Tokens for display cover their lines

Marking required modules changes categories only. So the tokens for display of a text are, line
by line, the text cut into tokens, and no place in them lies further from the start than the
text is long.
-/

namespace LuaAssist

/-! ## Lines -/

namespace Text

/-- A piece between line feeds ends no further from the start than the text, in UTF-16 units. -/
theorem units_splitLineFeeds_le {text piece : Text} {number : Nat}
    (hpiece : (splitLineFeeds text)[number]? = some piece) :
    number + utf16Length piece ≤ utf16Length text := by
  induction text generalizing number piece with
  | nil =>
    obtain ⟨rfl, rfl⟩ : number = 0 ∧ [] = piece := by
      simpa [splitLineFeeds, List.getElem?_singleton] using hpiece
    exact Nat.le_refl _
  | cons c rest ih =>
    have hwidth := utf16Width_pos c
    rw [utf16Length]
    by_cases hfeed : c = '\n'
    · rw [splitLineFeeds, if_pos hfeed] at hpiece
      cases number with
      | zero =>
        cases hpiece
        exact Nat.zero_le _
      | succ number =>
        have hrest := ih hpiece
        omega
    · rw [splitLineFeeds, if_neg hfeed] at hpiece
      cases hsplit : splitLineFeeds rest with
      | nil =>
        rw [hsplit] at hpiece
        obtain ⟨rfl, rfl⟩ : number = 0 ∧ [c] = piece := by
          simpa [List.getElem?_singleton] using hpiece
        simp [utf16Length]
      | cons line others =>
        rw [hsplit] at hpiece ih
        cases number with
        | zero =>
          cases hpiece
          have hrest := ih (List.getElem?_cons_zero)
          rw [utf16Length]
          omega
        | succ number =>
          have hrest : number + 1 + utf16Length piece ≤ utf16Length rest := ih hpiece
          omega

/-- A line ends no further from the start than the text, in UTF-16 units. -/
theorem units_lines_le {text line : Text} {number : Nat}
    (hline : (lines text)[number]? = some line) :
    number + utf16Length line ≤ utf16Length text := by
  obtain ⟨piece, hpiece, tail, rfl⟩ := exists_piece_of_lines hline
  have hunits := units_splitLineFeeds_le hpiece
  rw [utf16Length_append] at hunits
  omega

end Text

/-! ## Marking -/

namespace Highlight

/-- Another category leaves the text. -/
@[simp] theorem text_recast (token : Token) (kind : TokenKind) :
    (recast token kind).text = token.text := rfl

/-- So does marking a reference. -/
@[simp] theorem text_markReference (token : Token) : (markReference token).text = token.text := by
  unfold markReference
  split <;> rfl

/-- So does marking the calls of a line. -/
theorem map_text_markCalls (pending : Bool) (tokens : List Token) :
    (markCalls pending tokens).map Token.text = tokens.map Token.text := by
  fun_induction markCalls pending tokens <;> simp_all

/-- Marking keeps the texts of the tokens. -/
theorem map_text_mark (tokens : List Token) :
    (mark tokens).map Token.text = tokens.map Token.text := by
  have hsplit := List.prefix_iff_eq_append.mp
    (List.takeWhile_prefix (fun token : Token => token.kind = .whitespace || token.kind = .lineEnd)
      : _ <+: tokens)
  unfold mark
  dsimp only
  split
  · rename_i first rest hrest
    split
    · rw [hrest] at hsplit
      conv => rhs; rw [← hsplit]
      simp only [List.map_append, List.map_cons, List.map_map, text_recast]
      congr 2
      exact List.map_congr_left fun token _ => text_markReference token
    · exact map_text_markCalls false tokens
  · rfl

/-- The tokens for display of a line cover it. -/
theorem flatten_line (text : Text) (state : LineState) :
    ((line text state).tokens.map Token.text).flatten = text := by
  rw [line, map_text_mark, Lexer.flatten_scan]

/-- The tokens for display of a text cover its lines. -/
theorem map_flatten_document (text : Text) :
    (document text).map (fun scan => (scan.tokens.map Token.text).flatten) = Text.lines text := by
  have hlines : ∀ (state : LineState) (lines : List Text),
      (linesFrom state lines).map (fun scan => (scan.tokens.map Token.text).flatten) = lines := by
    intro state lines
    induction lines generalizing state with
    | nil => rfl
    | cons first rest ih => rw [linesFrom, List.map_cons, flatten_line, ih]
  exact hlines .code _

end Highlight

end LuaAssist

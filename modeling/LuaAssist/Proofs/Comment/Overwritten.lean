import LuaAssist.Proofs.Token.Marked

/-!
# Overwritten comments

A document in which every byte of a comment is overwritten with a space. Line ends are no part of
a comment, so its lines are the lines of the document with their comments overwritten, and every
other character keeps its line and its byte.
-/

namespace LuaAssist

/-- A space for each byte of a text. -/
def Text.spaces (text : Text) : Text := List.replicate (utf8Length text) ' '

/-- The text of a token, overwritten if the token is a comment. -/
def Token.overwritten (token : Token) : Text :=
  if token.kind.isComment then token.text.spaces else token.text

namespace LineScan

/-- The line that is cut into the tokens. -/
def text (scan : LineScan) : Text := (scan.tokens.map Token.text).flatten

/-- The line with its comments overwritten. -/
def overwritten (scan : LineScan) : Text := (scan.tokens.map Token.overwritten).flatten

end LineScan

namespace Highlight

/-- Pieces of a text between line feeds with the comments of their lines overwritten. What stands
in a piece behind its line is a part of the line end. -/
def overwritePieces : List Text → List LineScan → List Text
  | piece :: pieces, scan :: scans =>
    (scan.overwritten ++ piece.drop scan.text.length) :: overwritePieces pieces scans
  | pieces, _ => pieces

/-- A text with all bytes of its comments overwritten with spaces. -/
def overwritten (text : Text) : Text :=
  Text.join ['\n'] (overwritePieces (Text.splitLineFeeds text) (document text))

end Highlight

/-! ## One line -/

namespace Text

variable {text : Text}

/-- As many bytes are written as are overwritten. -/
theorem utf8Length_spaces (text : Text) : utf8Length text.spaces = utf8Length text := by
  unfold spaces
  induction utf8Length text with
  | zero => rfl
  | succ bytes ih =>
    rw [List.replicate_succ, utf8Length, ih, Nat.add_comm]
    rfl

/-- Nothing but spaces is written. -/
theorem eq_space_of_mem_spaces {c : Char} (hmem : c ∈ text.spaces) : c = ' ' :=
  List.eq_of_mem_replicate hmem

end Text

namespace Token

variable {token : Token}

/-- What is no comment is not overwritten. -/
theorem overwritten_of_other (hkind : token.kind.isComment = false) :
    token.overwritten = token.text :=
  if_neg (by simp [hkind])

/-- Overwriting keeps the bytes of a token. -/
theorem utf8Length_overwritten (token : Token) :
    Text.utf8Length token.overwritten = Text.utf8Length token.text := by
  unfold overwritten
  split
  · exact Text.utf8Length_spaces _
  · rfl

/-- A character of an overwritten token is a space or a character of the token. -/
theorem mem_of_mem_overwritten {c : Char} (hmem : c ∈ token.overwritten) :
    c = ' ' ∨ c ∈ token.text := by
  unfold overwritten at hmem
  split at hmem
  · exact Or.inl (Text.eq_space_of_mem_spaces hmem)
  · exact Or.inr hmem

/-- An overwritten token ends with a space or as the token does. -/
theorem getLast?_overwritten {c : Char} (hlast : token.overwritten.getLast? = some c) :
    c = ' ' ∨ token.text.getLast? = some c := by
  unfold overwritten at hlast
  split at hlast
  · exact Or.inl (Text.eq_space_of_mem_spaces (List.mem_of_getLast? hlast))
  · exact Or.inr hlast

end Token

namespace LineScan

variable {scan : LineScan}

/-- Overwriting keeps the bytes of a line. -/
theorem utf8Length_overwritten (scan : LineScan) :
    Text.utf8Length scan.overwritten = Text.utf8Length scan.text := by
  obtain ⟨tokens, state⟩ := scan
  simp only [overwritten, text]
  induction tokens with
  | nil => rfl
  | cons token tokens ih =>
    simp only [List.map_cons, List.flatten_cons, Text.utf8Length_append, ih,
      token.utf8Length_overwritten]

/-- A line is empty if it is so when its comments are overwritten. -/
theorem overwritten_eq_nil : scan.overwritten = [] ↔ scan.text = [] := by
  rw [← Text.utf8Length_eq_zero, utf8Length_overwritten, Text.utf8Length_eq_zero]

/-- A character of an overwritten line is a space or a character of the line. -/
theorem mem_of_mem_overwritten {c : Char} (hmem : c ∈ scan.overwritten) :
    c = ' ' ∨ c ∈ scan.text := by
  obtain ⟨part, hpart, hmem⟩ := List.mem_flatten.mp hmem
  obtain ⟨token, htoken, rfl⟩ := List.mem_map.mp hpart
  refine (Token.mem_of_mem_overwritten hmem).imp_right fun hmem => ?_
  exact List.mem_flatten.mpr ⟨token.text, List.mem_map_of_mem htoken, hmem⟩

/-- An overwritten line ends with a space or as the line does. -/
theorem getLast?_overwritten {c : Char} (hlast : scan.overwritten.getLast? = some c) :
    c = ' ' ∨ scan.text.getLast? = some c := by
  obtain ⟨tokens, state⟩ := scan
  induction tokens with
  | nil => cases hlast
  | cons token tokens ih =>
    have hempty : LineScan.overwritten ⟨tokens, state⟩ = [] ↔ LineScan.text ⟨tokens, state⟩ = [] :=
      overwritten_eq_nil
    simp only [overwritten, text, List.map_cons, List.flatten_cons, List.getLast?_append]
      at hlast hempty ih ⊢
    cases hrest : (tokens.map Token.overwritten).flatten.getLast? with
    | some last =>
      rw [hrest, Option.some_or] at hlast
      refine (ih (hrest.trans hlast)).imp_right fun hlast => ?_
      rw [hlast, Option.some_or]
    | none =>
      rw [hrest, Option.none_or] at hlast
      rw [hempty.mp (List.getLast?_eq_none_iff.mp hrest)]
      exact Token.getLast?_overwritten hlast

end LineScan

/-! ## All lines -/

namespace Text

/-- The lines that are made of pieces between line feeds. -/
def linesOfPieces (pieces : List Text) : List Text :=
  let last := pieces.getLast?.getD []
  pieces.dropLast.map dropFinalReturn ++ if last.isEmpty then [] else [last]

/-- A piece with another one behind it is a line, but for a carriage return at its end. -/
theorem linesOfPieces_cons_cons (piece next : Text) (pieces : List Text) :
    linesOfPieces (piece :: next :: pieces) =
      dropFinalReturn piece :: linesOfPieces (next :: pieces) := by
  simp [linesOfPieces]

/-- The last piece is a line if there is something in it. -/
theorem linesOfPieces_singleton (last : Text) :
    linesOfPieces [last] = if last.isEmpty then [] else [last] := rfl

end Text

namespace Highlight

open Text (linesOfPieces linesOfPieces_cons_cons linesOfPieces_singleton)

/-- Overwriting loses no piece. -/
theorem overwritePieces_ne_nil {pieces : List Text} (hne : pieces ≠ []) (scans : List LineScan) :
    overwritePieces pieces scans ≠ [] := by
  fun_cases overwritePieces pieces scans with
  | case1 => exact List.cons_ne_nil _ _
  | case2 => exact hne

/-- Overwriting leaves the line ends where they are. -/
theorem linesOfPieces_overwritePieces {pieces : List Text} {scans : List LineScan}
    (hlines : linesOfPieces pieces = scans.map LineScan.text) :
    linesOfPieces (overwritePieces pieces scans) = scans.map LineScan.overwritten := by
  induction pieces generalizing scans with
  | nil =>
    cases scans with
    | nil => rfl
    | cons => cases hlines
  | cons piece pieces ih =>
    cases pieces with
    | nil =>
      rw [linesOfPieces_singleton] at hlines
      cases scans with
      | nil => exact hlines
      | cons scan scans =>
        split at hlines
        · cases hlines
        · rename_i hpiece
          obtain ⟨hscan, hscans⟩ := List.cons.inj hlines
          obtain rfl := List.map_eq_nil_iff.mp hscans.symm
          have hover : scan.overwritten ≠ [] := by
            rwa [ne_eq, LineScan.overwritten_eq_nil, ← hscan, ← List.isEmpty_iff]
          show linesOfPieces [scan.overwritten ++ piece.drop scan.text.length] = [scan.overwritten]
          rw [← hscan, List.drop_length, List.append_nil, linesOfPieces_singleton,
            if_neg (by simpa using hover)]
    | cons next pieces =>
      rw [linesOfPieces_cons_cons] at hlines
      cases scans with
      | nil => cases hlines
      | cons scan scans =>
        obtain ⟨hscan, hscans⟩ := List.cons.inj hlines
        obtain ⟨first, others, hrest⟩ := List.exists_cons_of_ne_nil
          (overwritePieces_ne_nil (List.cons_ne_nil next pieces) scans)
        have hover := ih hscans
        rw [overwritePieces, List.map_cons, ← hover, hrest, linesOfPieces_cons_cons]
        congr 1
        -- The carriage return that was dropped from the piece is dropped again.
        rcases Text.dropFinalReturn_cases piece with hreturn | ⟨hsame, hlast⟩
        · rw [← hscan, hreturn, Text.dropFinalReturn_append_return, List.drop_left,
            Text.dropFinalReturn_append_return]
        · rw [← hscan, hsame, List.drop_length, List.append_nil]
          refine Text.dropFinalReturn_of_getLast? fun hover => ?_
          rcases LineScan.getLast?_overwritten hover with hspace | htext
          · exact absurd hspace (by decide)
          · rw [← hscan, hsame] at htext
            exact hlast htext

/-- No line feed comes into the pieces. -/
theorem inner_overwritePieces {pieces : List Text} {scans : List LineScan}
    (hpieces : ∀ piece ∈ pieces, '\n' ∉ piece) (hscans : ∀ scan ∈ scans, '\n' ∉ scan.text) :
    ∀ piece ∈ overwritePieces pieces scans, '\n' ∉ piece := by
  fun_induction overwritePieces pieces scans with
  | case1 piece pieces scan scans ih =>
    rw [List.forall_mem_cons] at hpieces hscans
    refine List.forall_mem_cons.mpr ⟨fun hmem => ?_, ih hpieces.2 hscans.2⟩
    rcases List.mem_append.mp hmem with hmem | hmem
    · rcases LineScan.mem_of_mem_overwritten hmem with hspace | htext
      · exact absurd hspace (by decide)
      · exact hscans.1 htext
    · exact hpieces.1 (List.mem_of_mem_drop hmem)
  | case2 => exact hpieces

/-- The lines of a text are those that are scanned. -/
theorem map_text_document (text : Text) : (document text).map LineScan.text = Text.lines text :=
  map_flatten_document text

/-- The lines of an overwritten text are its lines with their comments overwritten. -/
theorem lines_overwritten (text : Text) :
    Text.lines (overwritten text) = (document text).map LineScan.overwritten := by
  have hpieces : ∀ piece ∈ Text.splitLineFeeds text, '\n' ∉ piece := by
    intro piece hpiece hmem
    rw [Text.splitLineFeeds_eq_splitOn] at hpiece
    simpa using Text.inner_of_mem_splitOn hpiece '\n' hmem
  have hscans : ∀ scan ∈ document text, '\n' ∉ scan.text := by
    intro scan hscan hmem
    have hline : scan.text ∈ Text.lines text := map_text_document text ▸ List.mem_map_of_mem hscan
    obtain ⟨number, hnumber⟩ := List.mem_iff_getElem?.mp hline
    obtain ⟨piece, hpiece, hfront⟩ := Text.exists_piece_of_lines hnumber
    exact hpieces piece (List.mem_of_getElem? hpiece) (hfront.subset hmem)
  have hinner := inner_overwritePieces hpieces hscans
  have hne : Text.splitLineFeeds text ≠ [] := by
    obtain ⟨piece, pieces, hsplit⟩ := Text.exists_splitOn_eq (· = '\n') text
    rw [Text.splitLineFeeds_eq_splitOn, hsplit]
    exact List.cons_ne_nil _ _
  have hsplit : Text.splitLineFeeds (overwritten text) =
      overwritePieces (Text.splitLineFeeds text) (document text) := by
    rw [Text.splitLineFeeds_eq_splitOn, overwritten]
    refine Text.splitOn_join (by decide) (overwritePieces_ne_nil hne _) fun piece hpiece c hc => ?_
    exact decide_eq_false fun hfeed => hinner piece hpiece (hfeed ▸ hc)
  have hlines : ∀ text, Text.lines text = linesOfPieces (Text.splitLineFeeds text) := fun _ => rfl
  rw [hlines, hsplit]
  exact linesOfPieces_overwritePieces ((hlines text).symm.trans (map_text_document text).symm)

end Highlight

end LuaAssist

import LuaAssist.Text.Lines
import LuaAssist.Text.Search

/-!
# Cutting at separators

Cutting undoes joining, and a separator inside a text lets both sides be cut on their own. Lines
are the pieces between line feeds, but for carriage returns at their ends.
-/

namespace LuaAssist.Text

variable {isSeparator : Char → Bool}

/-- There is a first piece. -/
theorem exists_splitOn_eq (isSeparator : Char → Bool) (text : Text) :
    ∃ piece pieces, splitOn isSeparator text = piece :: pieces := by
  fun_cases splitOn isSeparator text <;> exact ⟨_, _, rfl⟩

/-- A character that separates nothing joins the first piece. -/
theorem splitOn_cons_inner {c : Char} {rest piece : Text} {pieces : List Text}
    (hinner : isSeparator c = false) (hrest : splitOn isSeparator rest = piece :: pieces) :
    splitOn isSeparator (c :: rest) = (c :: piece) :: pieces := by
  rw [splitOn, if_neg (by simp [hinner]), hrest]

/-- A separator ends a piece. -/
theorem splitOn_cons_separator {c : Char} (hseparator : isSeparator c = true) (rest : Text) :
    splitOn isSeparator (c :: rest) = [] :: splitOn isSeparator rest := by
  rw [splitOn, if_pos hseparator]

/-- The first piece is what stands in front of the first separator. -/
theorem head?_splitOn (isSeparator : Char → Bool) (text : Text) :
    (splitOn isSeparator text).head? = some (text.takeWhile fun c => !isSeparator c) := by
  induction text with
  | nil => rfl
  | cons c rest ih =>
    cases hinner : isSeparator c with
    | true =>
      rw [splitOn_cons_separator hinner, List.takeWhile_cons_of_neg (by simp [hinner])]
      rfl
    | false =>
      obtain ⟨piece, pieces, hrest⟩ := exists_splitOn_eq isSeparator rest
      rw [hrest, List.head?_cons, Option.some.injEq] at ih
      rw [splitOn_cons_inner hinner hrest, List.takeWhile_cons_of_pos (by simp [hinner]), ← ih]
      rfl

/-- Both sides of a separator are cut on their own. -/
theorem splitOn_append_separator {separator : Char} (hseparator : isSeparator separator = true)
    (front behind : Text) :
    splitOn isSeparator (front ++ separator :: behind) =
      splitOn isSeparator front ++ splitOn isSeparator behind := by
  induction front with
  | nil => exact splitOn_cons_separator hseparator behind
  | cons c front ih =>
    cases hinner : isSeparator c with
    | true =>
      rw [List.cons_append, splitOn_cons_separator hinner, splitOn_cons_separator hinner, ih]
      rfl
    | false =>
      obtain ⟨piece, pieces, hfront⟩ := exists_splitOn_eq isSeparator front
      rw [hfront, List.cons_append] at ih
      rw [List.cons_append, splitOn_cons_inner hinner ih, splitOn_cons_inner hinner hfront]
      rfl

/-- A text without separators is one piece. -/
theorem splitOn_of_inner {text : Text} (hinner : ∀ c ∈ text, isSeparator c = false) :
    splitOn isSeparator text = [text] := by
  induction text with
  | nil => rfl
  | cons c rest ih =>
    exact splitOn_cons_inner (hinner c List.mem_cons_self)
      (ih fun d hmem => hinner d (List.mem_cons_of_mem c hmem))

/-- No piece has a separator in it. -/
theorem inner_of_mem_splitOn {text piece : Text} (hpiece : piece ∈ splitOn isSeparator text) :
    ∀ c ∈ piece, isSeparator c = false := by
  induction text generalizing piece with
  | nil =>
    rw [splitOn, List.mem_singleton] at hpiece
    simp [hpiece]
  | cons c rest ih =>
    cases hinner : isSeparator c with
    | true =>
      rw [splitOn_cons_separator hinner] at hpiece
      rcases List.mem_cons.mp hpiece with rfl | hmem
      · simp
      · exact ih hmem
    | false =>
      obtain ⟨first, pieces, hrest⟩ := exists_splitOn_eq isSeparator rest
      rw [splitOn_cons_inner hinner hrest] at hpiece
      rw [hrest] at ih
      rcases List.mem_cons.mp hpiece with rfl | hmem
      · intro d hd
        rcases List.mem_cons.mp hd with rfl | hd
        · exact hinner
        · exact ih List.mem_cons_self d hd
      · exact ih (List.mem_cons_of_mem _ hmem)

/-- Texts without separators are the pieces of their joining. -/
theorem splitOn_join {separator : Char} (hseparator : isSeparator separator = true)
    {pieces : List Text} (hpieces : pieces ≠ [])
    (hinner : ∀ piece ∈ pieces, ∀ c ∈ piece, isSeparator c = false) :
    splitOn isSeparator (join [separator] pieces) = pieces := by
  induction pieces with
  | nil => exact absurd rfl hpieces
  | cons piece pieces ih =>
    have hfirst := splitOn_of_inner (hinner piece List.mem_cons_self)
    cases pieces with
    | nil => exact hfirst
    | cons next pieces =>
      have hrest := ih (List.cons_ne_nil _ _) fun other hmem =>
        hinner other (List.mem_cons_of_mem _ hmem)
      rw [join, List.append_assoc, List.singleton_append, splitOn_append_separator hseparator,
        hfirst, hrest]
      rfl

/-! ## Joining -/

/-- A character of joined texts is the separator or stands in one of the texts. -/
theorem mem_join {separator c : Char} {texts : List Text} (hmem : c ∈ join [separator] texts) :
    c = separator ∨ ∃ text ∈ texts, c ∈ text := by
  induction texts with
  | nil => cases hmem
  | cons first rest ih =>
    cases rest with
    | nil => exact Or.inr ⟨first, List.mem_cons_self, hmem⟩
    | cons next rest =>
      rw [join, List.mem_append, List.mem_append, List.mem_singleton] at hmem
      rcases hmem with (hmem | hmem) | hmem
      · exact Or.inr ⟨first, List.mem_cons_self, hmem⟩
      · exact Or.inl hmem
      · refine (ih hmem).imp_right fun ⟨text, htext, hmem⟩ => ?_
        exact ⟨text, List.mem_cons_of_mem first htext, hmem⟩

/-- A separator stands in front of each of the joined texts but the first. -/
theorem join_cons (separator first : Text) (rest : List Text) :
    join separator (first :: rest) = first ++ rest.flatMap (separator ++ ·) := by
  induction rest generalizing first with
  | nil => exact (List.append_nil first).symm
  | cons next rest ih => rw [join, ih, List.flatMap_cons, List.append_assoc, List.append_assoc]

/-- A separator stands behind each of the joined texts but the last. -/
theorem join_append_singleton (separator : Text) (texts : List Text) (last : Text) :
    join separator (texts ++ [last]) = texts.flatMap (· ++ separator) ++ last := by
  induction texts with
  | nil => rfl
  | cons first rest ih =>
    obtain ⟨next, others, hnext⟩ := List.exists_cons_of_ne_nil
      (List.append_ne_nil_of_right_ne_nil rest (List.cons_ne_nil last []))
    rw [List.cons_append, hnext, join, ← hnext, ih, List.flatMap_cons, List.append_assoc,
      List.append_assoc, List.append_assoc]

/-! ## Lines -/

/-- There is a first piece between line feeds, and another character joins it. -/
theorem exists_splitLineFeeds_cons {c : Char} (hfeed : c ≠ '\n') (rest : Text) :
    ∃ piece pieces, splitLineFeeds rest = piece :: pieces ∧
      splitLineFeeds (c :: rest) = (c :: piece) :: pieces := by
  obtain ⟨piece, pieces, hrest⟩ : ∃ piece pieces, splitLineFeeds rest = piece :: pieces := by
    fun_cases splitLineFeeds rest <;> exact ⟨_, _, rfl⟩
  exact ⟨piece, pieces, hrest, by rw [splitLineFeeds, if_neg hfeed, hrest]⟩

/-- A text without its final carriage return is the front of it. -/
theorem dropFinalReturn_prefix (text : Text) : dropFinalReturn text <+: text := by
  fun_induction dropFinalReturn text with
  | case1 => exact List.prefix_rfl
  | case2 => exact List.nil_prefix
  | case3 => exact List.prefix_rfl
  | case4 c d rest ih => exact List.cons_prefix_cons.mpr ⟨rfl, ih⟩

/-- A line is the front of the piece between line feeds that has its number. -/
theorem exists_piece_of_lines {text line : Text} {number : Nat}
    (hline : (lines text)[number]? = some line) :
    ∃ piece, (splitLineFeeds text)[number]? = some piece ∧ line <+: piece := by
  simp only [lines] at hline
  by_cases hinner : number < ((splitLineFeeds text).dropLast.map dropFinalReturn).length
  · rw [List.getElem?_append_left hinner, List.getElem?_map, List.getElem?_dropLast,
      if_pos (by simpa using hinner)] at hline
    obtain ⟨piece, hpiece, rfl⟩ := Option.map_eq_some_iff.mp hline
    exact ⟨piece, hpiece, dropFinalReturn_prefix piece⟩
  · rw [List.getElem?_append_right (by omega)] at hline
    split at hline
    · cases hline
    · rename_i hlast
      cases hend : (splitLineFeeds text).getLast? with
      | none => simp [hend] at hlast
      | some last =>
        obtain ⟨hzero, rfl⟩ : number - _ = 0 ∧ last = line := by
          simpa [hend, List.getElem?_singleton] using hline
        rw [List.getLast?_eq_getElem?] at hend
        rw [List.length_map, List.length_dropLast] at hinner
        exact ⟨last, by rw [← hend]; congr 1; omega, List.prefix_rfl⟩

/-- The pieces between line feeds are what a cut at line feeds gives. -/
theorem splitLineFeeds_eq_splitOn (text : Text) :
    splitLineFeeds text = splitOn (· = '\n') text := by
  induction text with
  | nil => rfl
  | cons c rest ih =>
    rw [splitLineFeeds, splitOn, ih]
    exact ite_congr (propext decide_eq_true_iff.symm) (fun _ => rfl) fun _ => rfl

/-- One carriage return is dropped at the end of a text. -/
theorem dropFinalReturn_append_return (text : Text) :
    dropFinalReturn (text ++ ['\r']) = text := by
  induction text with
  | nil => rfl
  | cons c rest ih =>
    cases rest with
    | nil => rfl
    | cons d rest => exact congrArg (c :: ·) ih

/-- A text either ends with a carriage return, or nothing of it is dropped. -/
theorem dropFinalReturn_cases (text : Text) :
    text = dropFinalReturn text ++ ['\r'] ∨
      dropFinalReturn text = text ∧ text.getLast? ≠ some '\r' := by
  fun_induction dropFinalReturn text with
  | case1 => exact Or.inr ⟨rfl, by simp⟩
  | case2 => exact Or.inl rfl
  | case3 c hc => exact Or.inr ⟨rfl, fun hlast => hc (Option.some.inj hlast)⟩
  | case4 c d rest ih =>
    refine ih.imp (congrArg (c :: ·)) fun hkept => ⟨congrArg (c :: ·) hkept.1, ?_⟩
    rw [List.getLast?_cons_cons]
    exact hkept.2

/-- Nothing is dropped from a text that does not end with a carriage return. -/
theorem dropFinalReturn_of_getLast? {text : Text} (hlast : text.getLast? ≠ some '\r') :
    dropFinalReturn text = text := by
  rcases dropFinalReturn_cases text with hreturn | ⟨hsame, -⟩
  · exact absurd (by rw [hreturn, List.getLast?_concat]) hlast
  · exact hsame

/-- No line has a line feed in it. -/
theorem feed_not_mem_of_mem_lines {text line : Text} (hline : line ∈ lines text) :
    '\n' ∉ line := by
  obtain ⟨number, hnumber⟩ := List.mem_iff_getElem?.mp hline
  obtain ⟨piece, hpiece, hfront⟩ := exists_piece_of_lines hnumber
  have hmem := List.mem_of_getElem? hpiece
  rw [splitLineFeeds_eq_splitOn] at hmem
  intro hfeed
  exact absurd (inner_of_mem_splitOn hmem _ (hfront.subset hfeed)) (by decide)

/-- A text without line feeds is one piece. -/
theorem splitLineFeeds_of_line {line : Text} (hfeed : '\n' ∉ line) :
    splitLineFeeds line = [line] := by
  rw [splitLineFeeds_eq_splitOn]
  exact splitOn_of_inner fun c hc => decide_eq_false fun heq => hfeed (heq ▸ hc)

/-- A text without line feeds is one line, unless it is empty. -/
theorem lines_of_line {line : Text} (hfeed : '\n' ∉ line) :
    lines line = if line.isEmpty then [] else [line] := by
  rw [lines, splitLineFeeds_of_line hfeed]
  rfl

/-- Texts with a line feed behind each are the pieces, and nothing is left behind them. -/
theorem splitLineFeeds_flatMap {written : List Text} (hfeed : ∀ line ∈ written, '\n' ∉ line) :
    splitLineFeeds (written.flatMap fun line => line ++ ['\n']) = written ++ [[]] := by
  induction written with
  | nil => rfl
  | cons first rest ih =>
    have hfirst := splitLineFeeds_of_line (hfeed first List.mem_cons_self)
    have hrest := ih fun line hline => hfeed line (List.mem_cons_of_mem first hline)
    rw [splitLineFeeds_eq_splitOn] at hfirst hrest ⊢
    rw [List.flatMap_cons, List.append_assoc, List.singleton_append,
      splitOn_append_separator (by decide), hfirst, hrest]
    rfl

/-- Lines that are written are read again, unless the end of a line stands in one of them. -/
theorem lines_flatMap {written : List Text} (hfeed : ∀ line ∈ written, '\n' ∉ line)
    (hreturn : ∀ line ∈ written, line.getLast? ≠ some '\r') :
    lines (written.flatMap fun line => line ++ ['\n']) = written := by
  have hkept : written.map dropFinalReturn = written :=
    (List.map_congr_left fun line hline => dropFinalReturn_of_getLast? (hreturn line hline)).trans
      (List.map_id' written)
  rw [lines, splitLineFeeds_flatMap hfeed, List.getLast?_concat, List.dropLast_concat, hkept]
  exact List.append_nil written

end LuaAssist.Text

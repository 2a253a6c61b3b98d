import LuaAssist.Indent.Column
import Mathlib.Data.List.Induction
import Mathlib.Data.List.Infix

/-!
# Blocks on a stack

Which line began the block that a closing keyword ends can be told by a stack: reading the
keywords from the first line on, a keyword that opens a block puts its line on top, and one that
closes a block takes the top away. A line is aligned with the line on top of this stack, and a
line opens as many levels as it leaves on a stack of its own.
-/

namespace LuaAssist.Indent

variable {α β : Type}

/-! ## The stack -/

/-- The blocks that are open behind a keyword, the nearest on top. Where none is open, nothing
is closed. -/
def openBehind (line : α) (stack : List α) (keyword : Text) : List α :=
  if keyword ∈ ["end".toList, "until".toList, "elseif".toList] then stack.tail
  else if keyword ∈ ["function".toList, "do".toList, "then".toList, "repeat".toList] then
    line :: stack
  else if keyword = "else".toList then line :: stack.tail
  else stack

/-- The blocks that are open behind the keywords of a line. -/
def openBehindLine (line : α) (stack : List α) (keywords : List Text) : List α :=
  keywords.foldl (openBehind line) stack

/-- The blocks that are open behind lines, each given with its keywords. -/
def openBlocks (lines : List (α × List Text)) : List α :=
  lines.foldl (fun stack line => openBehindLine line.1 stack line.2) []

/-- A keyword first closes and then opens, if it does both. -/
theorem openBehind_eq (line : α) (stack : List α) (keyword : Text) :
    openBehind line stack keyword =
      (if opens keyword then [line] else []) ++ (if closes keyword then stack.tail else stack) := by
  by_cases hcloses : keyword ∈ ["end".toList, "until".toList, "elseif".toList]
  · rw [openBehind, if_pos hcloses]
    simp only [List.mem_cons, List.not_mem_nil, or_false] at hcloses
    rcases hcloses with rfl | rfl | rfl <;> rfl
  by_cases hopens : keyword ∈ ["function".toList, "do".toList, "then".toList, "repeat".toList]
  · rw [openBehind, if_neg hcloses, if_pos hopens]
    simp only [List.mem_cons, List.not_mem_nil, or_false] at hopens
    rcases hopens with rfl | rfl | rfl | rfl <;> rfl
  by_cases helse : keyword = "else".toList
  · subst helse
    rfl
  · have hopening : opens keyword = false := by
      rw [opens, List.contains_eq_mem, decide_eq_false_iff_not]
      simp only [opening, List.mem_cons, List.not_mem_nil, or_false] at hopens ⊢
      tauto
    have hclosing : closes keyword = false := by
      rw [closes, List.contains_eq_mem, decide_eq_false_iff_not]
      simp only [closing, List.mem_cons, List.not_mem_nil, or_false] at hcloses ⊢
      tauto
    rw [openBehind, if_neg hcloses, if_neg hopens, if_neg helse, hopening, hclosing]
    rfl

/-- A line is gone through keyword by keyword. -/
theorem openBehindLine_concat (line : α) (stack : List α) (front : List Text) (keyword : Text) :
    openBehindLine line stack (front ++ [keyword]) =
      openBehind line (openBehindLine line stack front) keyword := by
  rw [openBehindLine, List.foldl_append]
  rfl

/-- A text is gone through line by line. -/
theorem openBlocks_concat (lines : List (α × List Text)) (line : α × List Text) :
    openBlocks (lines ++ [line]) = openBehindLine line.1 (openBlocks lines) line.2 := by
  rw [openBlocks, List.foldl_append]
  rfl

/-- Lines may be told by their numbers or by anything else. -/
theorem map_openBlocks (f : α → β) (lines : List (α × List Text)) :
    (openBlocks lines).map f = openBlocks (lines.map (Prod.map f id)) := by
  have hkeyword : ∀ line stack keyword,
      (openBehind line stack keyword).map f = openBehind (f line) (stack.map f) keyword := by
    intro line stack keyword
    rw [openBehind_eq, openBehind_eq, List.map_append]
    split <;> split <;> simp [List.map_tail]
  have hline : ∀ line stack keywords, (openBehindLine line stack keywords).map f =
      openBehindLine (f line) (stack.map f) keywords := by
    intro line stack keywords
    induction keywords using List.reverseRecOn with
    | nil => rfl
    | append_singleton front keyword ih =>
      rw [openBehindLine_concat, openBehindLine_concat, hkeyword, ih]
  induction lines using List.reverseRecOn with
  | nil => rfl
  | append_singleton lines line ih =>
    rw [List.map_append, List.map_singleton, openBlocks_concat, openBlocks_concat, hline, ih]
    rfl

/-! ## Levels of one line -/

/-- One more keyword, which closes before it opens. -/
theorem depths_concat (front : List Text) (keyword : Text) :
    depths (front ++ [keyword]) =
      let closed := if closes keyword then (depths front).1 - 1 else (depths front).1
      (if opens keyword then closed + 1 else closed, min (depths front).2 closed) := by
  rw [depths, List.foldl_append]
  rfl

/-- The lowest depth is not above the last one. -/
theorem lowest_le (keywords : List Text) : (depths keywords).2 ≤ (depths keywords).1 := by
  induction keywords using List.reverseRecOn with
  | nil => exact Int.le_refl 0
  | append_singleton front keyword ih =>
    rw [depths_concat]
    dsimp only
    split <;> omega

/-- The levels that keywords open are the blocks that they leave open by themselves. -/
theorem delta_eq_length (line : α) (keywords : List Text) :
    delta keywords = ((openBehindLine line [] keywords).length : Int) := by
  induction keywords using List.reverseRecOn with
  | nil => rfl
  | append_singleton front keyword ih =>
    have hlowest := lowest_le front
    rw [delta] at ih
    rw [delta, depths_concat, openBehindLine_concat, openBehind_eq, List.length_append]
    dsimp only
    cases opens keyword <;> cases closes keyword <;>
      simp only [Bool.false_eq_true, if_true, if_false, List.length_nil, List.length_singleton,
        List.length_tail] <;> omega

/-- The depth behind keywords counts what they open and close. -/
theorem depth_eq_count (keywords : List Text) :
    (depths keywords).1 = (keywords.countP opens : Int) - keywords.countP closes := by
  induction keywords using List.reverseRecOn with
  | nil => rfl
  | append_singleton front keyword ih =>
    rw [depths_concat, List.countP_append, List.countP_append]
    dsimp only
    cases hopens : opens keyword <;> cases hcloses : closes keyword <;>
      simp [hopens, hcloses] <;> omega

/-- In front of some keyword that closes a block, the keywords have closed as many blocks as they
have opened, so that with this one they close more. -/
def ClosesMore (keywords : List Text) : Prop :=
  ∃ front keyword, front ++ [keyword] <+: keywords ∧ closes keyword = true ∧
    front.countP opens < (front ++ [keyword]).countP closes

/-- Whether keywords close more than they open is told by the lowest depth. -/
theorem closesOutside_iff (keywords : List Text) :
    closesOutside keywords = true ↔ ClosesMore keywords := by
  rw [closesOutside, decide_eq_true_eq]
  induction keywords using List.reverseRecOn with
  | nil => simp [depths, ClosesMore]
  | append_singleton front keyword ih =>
    have hlowest := lowest_le front
    have hdepth := depth_eq_count front
    have hmore : ClosesMore (front ++ [keyword]) ↔ ClosesMore front ∨
        closes keyword = true ∧ front.countP opens < (front ++ [keyword]).countP closes := by
      simp only [ClosesMore, List.prefix_concat_iff]
      constructor
      · rintro ⟨part, last, heq | hpart, hcloses, hcount⟩
        · obtain ⟨rfl, rfl⟩ := List.append_inj' heq rfl |>.imp id List.singleton_inj.mp
          exact Or.inr ⟨hcloses, hcount⟩
        · exact Or.inl ⟨part, last, hpart, hcloses, hcount⟩
      · rintro (⟨part, last, hpart, hcloses, hcount⟩ | ⟨hcloses, hcount⟩)
        · exact ⟨part, last, Or.inr hpart, hcloses, hcount⟩
        · exact ⟨front, keyword, Or.inl rfl, hcloses, hcount⟩
    rw [hmore, ← ih, depths_concat]
    dsimp only
    cases hcloses : closes keyword <;>
      simp only [List.countP_append, List.countP_singleton, hcloses, Bool.false_eq_true, if_true,
        if_false, false_and, true_and, or_false] <;> omega

instance (keywords : List Text) : Decidable (ClosesMore keywords) :=
  decidable_of_iff _ (closesOutside_iff keywords)

/-! ## Reading backwards -/

/-- Once the line that is looked for has begun a block, reading on does not change that. -/
theorem foldl_unclosed (depth : Int) (begun : Bool) (keywords : List Text) :
    keywords.foldl (fun (depth, begun) keyword =>
        let opened := if opens keyword then depth - 1 else depth
        (if closes keyword then opened + 1 else opened, begun || (opens keyword && opened < 0)))
        (depth, begun) =
      ((unclosed depth keywords.reverse).1, begun || (unclosed depth keywords.reverse).2) := by
  rw [unclosed, List.reverse_reverse]
  induction keywords generalizing depth begun with
  | nil => simp
  | cons keyword keywords ih =>
    rw [List.foldl_cons, List.foldl_cons]
    dsimp only
    rw [ih _ (begun || _), ih _ (false || _), Bool.false_or, Bool.or_assoc]

/-- Read backwards, the last keyword comes first. -/
theorem unclosed_concat (depth : Int) (front : List Text) (keyword : Text) :
    unclosed depth (front ++ [keyword]) =
      let opened := if opens keyword then depth - 1 else depth
      let inner := unclosed (if closes keyword then opened + 1 else opened) front
      (inner.1, (opens keyword && opened < 0) || inner.2) := by
  rw [unclosed, List.reverse_concat, List.foldl_cons]
  dsimp only
  rw [foldl_unclosed, List.reverse_reverse, Bool.false_or]

/-- Reading the keywords of a line backwards with some blocks still to be begun: either the line
begins the one that is looked for, and then it stands below as many others on the stack, or the
search goes on in the stack as it was in front of the line. -/
theorem unclosed_spec (line : α) (stack : List α) (keywords : List Text) (depth : Nat) :
    if (unclosed depth keywords).2 then
      ((openBehindLine line stack keywords).drop depth).head? = some line
    else ∃ after : Nat, (unclosed depth keywords).1 = after ∧
      (openBehindLine line stack keywords).drop depth = stack.drop after := by
  induction keywords using List.reverseRecOn generalizing depth with
  | nil => exact ⟨depth, rfl, rfl⟩
  | append_singleton front keyword ih =>
    rw [unclosed_concat, openBehindLine_concat, openBehind_eq]
    have hclosed : ∀ depth : Nat,
        (openBehindLine line stack front).drop (if closes keyword then depth + 1 else depth) =
          (if closes keyword then (openBehindLine line stack front).tail
            else openBehindLine line stack front).drop depth := by
      intro depth
      split
      · rw [List.drop_tail]
      · rfl
    have hcast : ∀ depth : Nat, (if closes keyword then (depth : Int) + 1 else depth) =
        ((if closes keyword then depth + 1 else depth : Nat) : Int) := by
      intro depth
      split <;> rfl
    cases hopens : opens keyword with
    | false =>
      have hfront := ih (if closes keyword then depth + 1 else depth)
      rw [← hcast, hclosed] at hfront
      exact hfront
    | true =>
      cases depth with
      | zero => simp
      | succ depth =>
        have hfront := ih (if closes keyword then depth + 1 else depth)
        have hless : ((depth + 1 : Nat) : Int) - 1 = depth := by omega
        have hopen : decide ((depth : Int) < 0) = false := decide_eq_false (by omega)
        rw [← hcast, hclosed] at hfront
        simp only [if_true, hless, hopen, Bool.and_false, Bool.false_or]
        exact hfront

/-- The line that is found when lines are read backwards stands on the stack, below as many lines
as there are blocks still to be begun. -/
theorem opener?_eq_head? (lines : List (Text × List Text)) (depth : Nat) :
    opener? depth lines.reverse = ((openBlocks lines).drop depth).head? := by
  induction lines using List.reverseRecOn generalizing depth with
  | nil => simp [opener?, openBlocks]
  | append_singleton lines line ih =>
    obtain ⟨line, keywords⟩ := line
    have hspec := unclosed_spec line (openBlocks lines) keywords depth
    rw [List.reverse_concat, opener?, openBlocks_concat]
    dsimp only
    split at hspec
    · rename_i hbegun
      rw [if_pos hbegun, hspec]
    · rename_i hbegun
      obtain ⟨after, hafter, hdrop⟩ := hspec
      rw [if_neg hbegun, hafter, ih, hdrop]

/-! ## Documents -/

/-- The keywords of all lines of a document. -/
def blockKeywords (text : Text) : List (List Text) := keywordsFrom .code (Document.lineTexts text)

/-- The numbers of the lines above a line, with their keywords. -/
def linesAbove (text : Text) (line : Nat) : List (Nat × List Text) :=
  ((blockKeywords text).take line).zipIdx.map Prod.swap

/-- The keywords of lines do not depend on the lines below. -/
theorem take_keywordsFrom (state : LineState) (lines : List Text) (count : Nat) :
    (keywordsFrom state lines).take count = keywordsFrom state (lines.take count) := by
  induction lines generalizing state count with
  | nil => simp [keywordsFrom]
  | cons line lines ih =>
    cases count with
    | zero => rfl
    | succ count => rw [keywordsFrom, List.take_succ_cons, ih]; rfl

/-- Each line has its keywords. -/
theorem length_keywordsFrom (state : LineState) (lines : List Text) :
    (keywordsFrom state lines).length = lines.length := by
  induction lines generalizing state with
  | nil => rfl
  | cons line lines ih => rw [keywordsFrom, List.length_cons, ih, List.length_cons]

/-- The keywords up to a line are the first of the keywords of all lines. -/
theorem keywordLines_eq (text : Text) (line : Nat) :
    keywordLines text line = (blockKeywords text).take (line + 1) := by
  rw [keywordLines, blockKeywords, take_keywordsFrom]

/-- The lines above a line with their texts instead of their numbers. -/
theorem map_linesAbove (text : Text) (line : Nat) :
    (linesAbove text line).map (Prod.map (Document.lineText text) id) =
      ((Document.lineTexts text).zip (keywordLines text line)).take line := by
  have hlength : (blockKeywords text).length = (Document.lineTexts text).length :=
    length_keywordsFrom _ _
  rw [keywordLines_eq]
  refine List.ext_getElem? fun number => ?_
  rw [linesAbove, List.getElem?_map, List.getElem?_map, List.getElem?_zipIdx, List.getElem?_take,
    List.getElem?_take, List.zip_eq_zipWith, List.getElem?_zipWith, List.getElem?_take]
  by_cases hnumber : number < line
  · rw [if_pos hnumber, if_pos hnumber, if_pos (by omega)]
    cases hkeywords : (blockKeywords text)[number]? with
    | none => cases (Document.lineTexts text)[number]? <;> rfl
    | some keywords =>
      have hraw : number < (Document.rawLines text).length := by
        have hsome := (List.getElem?_eq_some_iff.mp hkeywords).1
        rwa [hlength, Document.lineTexts, List.length_map] at hsome
      have htext : (Document.lineTexts text)[number]? = some (Document.lineText text number) := by
        rw [Document.lineTexts, List.getElem?_map, List.getElem?_eq_getElem hraw, Document.lineText,
          List.getElem?_eq_getElem hraw]
        rfl
      rw [htext]
      simp
  · rw [if_neg hnumber, if_neg hnumber]
    rfl

/-- The keywords of a line. -/
def keywordsOfLine (text : Text) (line : Nat) : List Text := (blockKeywords text)[line]?.getD []

/-- A line whose last keyword closes a block, and which closes more than it opens, is aligned with
the line on top of the stack behind the lines above it, if there is one; no other line is aligned.
And keywords open as many levels as they leave blocks open by themselves. -/
theorem closingColumn?_eq_top (text : Text) (line : Nat) (style : Style) :
    closingColumn? text line style =
        (if (keywordsOfLine text line).getLast?.any closes ∧
            ClosesMore (keywordsOfLine text line) then
          (openBlocks (linesAbove text line)).head?.map fun opener =>
            column (Document.lineText text opener) style.tabSize
        else none) ∧
      ∀ keywords, delta keywords = ((openBehindLine line [] keywords).length : Int) := by
  have hown : (keywordLines text line).getD line [] = keywordsOfLine text line := by
    rw [keywordLines_eq, List.getD_eq_getElem?_getD, List.getElem?_take, if_pos (by omega),
      keywordsOfLine]
  have hopener : opener? 0 (((Document.lineTexts text).zip (keywordLines text line)).take
      line).reverse = (openBlocks (linesAbove text line)).head?.map (Document.lineText text) := by
    rw [← List.head?_map, map_openBlocks, map_linesAbove]
    exact opener?_eq_head? _ 0
  refine ⟨?_, delta_eq_length line⟩
  rw [closingColumn?, hown]
  simp only [hopener, ← closesOutside_iff, Option.map_map]
  cases (keywordsOfLine text line).getLast?.any closes <;>
    cases closesOutside (keywordsOfLine text line) <;> rfl

/-- A line with `else` and nothing else closes no more than it opens, and yet it is aligned: its
keyword first closes a block and then opens one. -/
theorem closingColumn?_of_else :
    let text := "if a then\n    x()\n    else".toList
    (keywordsOfLine text 2).getLast?.any closes = true ∧
      (∀ front ∈ (keywordsOfLine text 2).inits, front.countP closes ≤ front.countP opens) ∧
      openBlocks (linesAbove text 2) = [0] ∧ closingColumn? text 2 ⟨4, 4, true⟩ = some 0 := by
  decide +kernel

end LuaAssist.Indent

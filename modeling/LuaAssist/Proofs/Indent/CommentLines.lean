import LuaAssist.Proofs.Document.Lines
import LuaAssist.Proofs.Indent.Columns
import LuaAssist.Proofs.Indent.Matching
import LuaAssist.Proofs.Text.Names
import LuaAssist.Proofs.Text.Trim
import LuaAssist.Proofs.Token.Bytes
import LuaAssist.Proofs.Token.Grammar

/-!
# New lines below comments

Lines of comments have no keywords, and nothing is open behind them if nothing is open in front.
Still a line can stand differently below them: a comment over several lines has lines that begin
with no dashes, and the last of these is taken for code.
-/

namespace LuaAssist.Indent

open Document (dropLineFeed lineTexts rawLines)
open Lexer (ClosesFirst ClosesLong NeverCloses longOpening stateBehind words)

variable {c : Char} {text line after : Text} {state behind : LineState}
  {lines inserted : List Text} {number : Nat} {style : Style}

/-! ## Comments -/

/-- A line, or the rest of one, of comments and blanks, with what is open in front of it and
behind it. -/
inductive Comments : LineState → Text → LineState → Prop where
  | nil : Comments .code [] .code
  | blank {c : Char} {rest : Text} {behind : LineState} (hblank : Text.isBlank c)
      (hrest : Comments .code rest behind) : Comments .code (c :: rest) behind
  /-- A comment up to the end of the line. -/
  | line {content : Text} (hshort : ∀ level, ¬longOpening level <+: content) :
      Comments .code ('-' :: '-' :: content) .code
  /-- A long comment begins. -/
  | opened {level : Nat} {rest : Text} {behind : LineState}
      (hrest : Comments (.longComment level) rest behind) :
      Comments .code ('-' :: '-' :: (longOpening level ++ rest)) behind
  /-- A long comment ends with its first closing bracket. -/
  | closed {level : Nat} {body rest : Text} {behind : LineState}
      (hfirst : ClosesFirst (ClosesLong level) body) (hrest : Comments .code rest behind) :
      Comments (.longComment level) (body ++ rest) behind
  /-- A long comment goes on behind the line. -/
  | goesOn {level : Nat} {body : Text} (hnever : NeverCloses (ClosesLong level) body) :
      Comments (.longComment level) body (.longComment level)

/-- Lines of comments, with what is open in front of the first and behind the last. -/
inductive CommentLines : LineState → List Text → LineState → Prop where
  | nil {state : LineState} : CommentLines state [] state
  | cons {state between behind : LineState} {line : Text} {lines : List Text}
      (hline : Comments state line between) (hlines : CommentLines between lines behind) :
      CommentLines state (line :: lines) behind

/-- A blank that separates no tokens is a token of its own. -/
theorem read_blank (hblank : Text.isBlank c = true) (hspace : Lexer.isSpace c = false)
    (rest : Text) : Lexer.read .start c rest = .closed .identifier 0 := by
  by_cases hascii : Lexer.IsAscii c
  · obtain rfl : c = '\x0b' := by
      have hother : ∀ code ∈ Text.blankCodes, code < 0x80 →
          Lexer.isSpace (Char.ofNat code) = false → code = 0xB := by decide
      have hcode := hother c.toNat (Text.toNat_mem_blankCodes hblank) hascii
        (by rw [Char.ofNat_toNat, hspace])
      rw [← Char.ofNat_toNat c, hcode]
    have hop : Lexer.operatorAt? ('\x0b' :: rest) = none := rfl
    simp [Lexer.read, Lexer.isSpace, Lexer.isNameStart, hop]
  · exact Lexer.read_of_not_isAscii _ hascii rest

/-- No name begins with a blank. -/
theorem isNameStart_of_isBlank (hblank : Text.isBlank c = true) : Lexer.isNameStart c = false := by
  have hnone : ∀ code ∈ Text.blankCodes, Lexer.isNameStart (Char.ofNat code) = false := by
    decide
  rw [← Char.ofNat_toNat c]
  exact hnone c.toNat (Text.toNat_mem_blankCodes hblank)

/-- A blank says nothing, whether it separates tokens or is one itself. -/
theorem skip_anyBlank (hblank : Text.isBlank c = true) (rest : Text) :
    words (c :: rest) = words rest ∧ stateBehind (c :: rest) = stateBehind rest := by
  cases hspace : Lexer.isSpace c with
  | true => exact Lexer.skip_blank hspace rest
  | false => exact Lexer.skip_closed (isNameStart_of_isBlank hblank) (read_blank hblank hspace rest)

/-- A long comment up to its closing bracket says nothing, and without one it goes on behind its
line. -/
theorem skip_longComment (level : Nat) (rest : Text) :
    words ('-' :: '-' :: (longOpening level ++ rest)) = (match Lexer.longClose? level rest with
      | some length => words (rest.drop length)
      | none => []) ∧
    stateBehind ('-' :: '-' :: (longOpening level ++ rest)) =
      match Lexer.longClose? level rest with
      | some length => stateBehind (rest.drop length)
      | none => .longComment level := by
  have hdrop : ('-' :: (longOpening level ++ rest)).drop (level + 3) = rest := by
    rw [← List.cons_append, List.drop_left' (by simp [longOpening])]
  have hopening : ['-', '-'] ++ longOpening level <+: '-' :: '-' :: (longOpening level ++ rest) :=
    ⟨rest, by simp⟩
  have hread := (Lexer.read_commentOpening hopening .start).2
  rw [Lexer.readLong, hdrop] at hread
  cases hclose : Lexer.longClose? level rest with
  | some length =>
    rw [hclose] at hread
    have hskip := Lexer.skip_closed (by decide) hread
    rwa [← List.drop_drop, hdrop] at hskip
  | none =>
    rw [hclose] at hread
    have hmore : Lexer.moreOf '-' ('-' :: (longOpening level ++ rest)) =
        ('-' :: (longOpening level ++ rest)).length := by
      rw [Lexer.moreOf, hread]
    rw [Lexer.words_other (by decide), Lexer.stateBehind_last (Nat.le_of_eq hmore.symm), hmore,
      List.drop_length, Lexer.words_nil, hread]
    exact ⟨rfl, rfl⟩

/-- The rest of a line has no words and leaves open what it is said to. What stands in a long
comment in front of the closing bracket is left out. -/
def Wordless : LineState → Text → LineState → Prop
  | .code, text, behind => words text = [] ∧ stateBehind text = behind
  | .longComment level, text, behind =>
    match Lexer.longClose? level text with
    | some length => words (text.drop length) = [] ∧ stateBehind (text.drop length) = behind
    | none => behind = .longComment level
  | .longString _, _, _ => False

/-- Comments have no words and leave open what they are said to. -/
theorem Comments.wordless (hcomments : Comments state text behind) :
    Wordless state text behind := by
  induction hcomments with
  | nil => exact ⟨Lexer.words_nil, Lexer.stateBehind_nil⟩
  | @blank c rest behind hblank _ ih =>
    obtain ⟨hwords, hstate⟩ := skip_anyBlank hblank rest
    exact ⟨hwords.trans ih.1, hstate.trans ih.2⟩
  | @line content hshort =>
    have hdashes : ['-', '-'] <+: '-' :: '-' :: content := ⟨content, rfl⟩
    have hread := Lexer.read_lineComment hdashes
      (fun level hopening => hshort level (by simpa using hopening)) .start
    have hskip := Lexer.skip_closed (by decide) hread
    rw [List.drop_length, Lexer.words_nil, Lexer.stateBehind_nil] at hskip
    exact hskip
  | @opened level rest behind _ ih =>
    obtain ⟨hwords, hstate⟩ := skip_longComment level rest
    simp only [Wordless, hwords, hstate] at ih ⊢
    cases hclose : Lexer.longClose? level rest with
    | some length => rwa [hclose] at ih
    | none =>
      rw [hclose] at ih
      exact ⟨rfl, ih.symm⟩
  | @closed level body rest behind hfirst _ ih =>
    rw [Wordless, Lexer.longClose?_of_closesFirst hfirst]
    simpa [Wordless] using ih
  | goesOn hnever => rw [Wordless, Lexer.longClose?_of_neverCloses hnever]

/-- A line of comments has no keywords, and behind it is open what its comments leave open. -/
theorem Comments.scan (hcomments : Comments state line behind) :
    keywordsOf (Lexer.scan line state) = [] ∧ (Lexer.scan line state).state = behind := by
  have hsays := hcomments.wordless
  cases state with
  | code =>
    obtain ⟨hwords, hstate⟩ := hsays
    rw [Lexer.keywordsOf_scan, hwords]
    exact ⟨rfl, hstate⟩
  | longComment level =>
    obtain ⟨hkeywords, hstate⟩ :=
      Lexer.continueLong_says (.inr rfl : Lexer.LongForm.comment = .string ∨ _) level line
    rw [Lexer.scan, hkeywords, hstate]
    rw [Wordless] at hsays
    cases hclose : Lexer.longClose? level line with
    | some length =>
      rw [hclose] at hsays
      refine ⟨?_, hsays.2⟩
      dsimp only
      rw [Lexer.keywordsOf_scan, hsays.1]
      rfl
    | none =>
      rw [hclose] at hsays
      exact ⟨rfl, hsays.symm⟩
  | longString level => exact hsays.elim

/-- What begins with two dashes is skipped. -/
theorem isSkippable_of_dashes (content : Text) : isSkippable ('-' :: '-' :: content) = true := by
  have hstart : Text.trimStart ('-' :: '-' :: content) = ['-', '-'] ++ content :=
    Text.trimStart_of_head? (by rintro c ⟨⟩; rfl)
  have hdashes : Text.trimEnd ['-', '-'] = ['-', '-'] := rfl
  rw [isSkippable, Text.trim, hstart]
  by_cases hblanks : Text.trimEnd content = []
  · rw [Text.trimEnd_append_of_eq_nil _ hblanks, hdashes]
    rfl
  · rw [Text.trimEnd_append_of_ne_nil _ hblanks]
    rfl

/-- A line of comments that does not begin inside one is taken for a line without code. -/
theorem Comments.isSkippable (hcomments : Comments state line behind) (hcode : state = .code) :
    isSkippable line = true := by
  induction hcomments with
  | nil => rfl
  | @blank c rest behind hblank _ ih =>
    have htrim : Text.trim (c :: rest) = Text.trim rest := by
      rw [Text.trim, Text.trimStart, List.dropWhile_cons_of_pos hblank, ← Text.trimStart,
        ← Text.trim]
    rw [Indent.isSkippable, htrim]
    exact ih hcode
  | line _ => exact isSkippable_of_dashes _
  | opened _ => exact isSkippable_of_dashes _
  | closed => cases hcode
  | goesOn => cases hcode

/-! ## Lines of keywords -/

/-- What is open behind lines. -/
def behindLines (state : LineState) (lines : List Text) : LineState :=
  lines.foldl (fun state line => (Lexer.scan line state).state) state

/-- Further lines are read from what the lines above leave open. -/
theorem keywordsFrom_append (state : LineState) (lines more : List Text) :
    keywordsFrom state (lines ++ more) =
      keywordsFrom state lines ++ keywordsFrom (behindLines state lines) more := by
  induction lines generalizing state with
  | nil => rfl
  | cons line lines ih =>
    rw [List.cons_append, keywordsFrom, ih, keywordsFrom, List.cons_append]
    rfl

/-- No line of comments has keywords. -/
theorem CommentLines.keywordsFrom_eq (hcomments : CommentLines state lines behind) :
    keywordsFrom state lines = lines.map fun _ => [] := by
  induction hcomments with
  | nil => rfl
  | cons hline _ ih => rw [keywordsFrom, hline.scan.1, hline.scan.2, ih, List.map_cons]

/-- Comments that end on their lines stand one below the other. -/
theorem CommentLines.of_forall (hcomments : ∀ line ∈ lines, Comments .code line .code) :
    CommentLines .code lines .code := by
  induction lines with
  | nil => exact .nil
  | cons line lines ih =>
    exact .cons (hcomments line List.mem_cons_self)
      (ih fun other hother => hcomments other (List.mem_cons_of_mem _ hother))

/-- The column of a line below others: what the last one asks for that is not skipped. -/
def columnBelow (style : Style) (lines : List (Text × List Text)) : Nat :=
  match lines.reverse.find? fun (previous, _) => !isSkippable previous with
  | none => 0
  | some (previous, keywords) =>
    wrap (column previous style.tabSize + (delta keywords).toNat * style.size)

/-- The last line that is not skipped. -/
def lastUnskipped? (lines : List Text) : Option Text :=
  lines.reverse.find? fun line => !isSkippable line

/-- Lines without keywords below others ask for the column of the last one that is not skipped,
and if all are skipped, the others decide. -/
theorem columnBelow_append (above : List (Text × List Text)) (lines : List Text) :
    columnBelow style (above ++ lines.map fun line => (line, [])) =
      match lastUnskipped? lines with
      | none => columnBelow style above
      | some line => column line style.tabSize := by
  have hfound : (lines.map fun line => (line, ([] : List Text))).reverse.find?
      (fun (previous, _) => !isSkippable previous) =
        (lastUnskipped? lines).map fun line => (line, []) := by
    rw [← List.map_reverse, List.find?_map, lastUnskipped?]
    rfl
  rw [columnBelow, List.reverse_append, List.find?_append, hfound]
  cases lastUnskipped? lines with
  | none => rfl
  | some line =>
    show wrap (column line style.tabSize + (delta []).toNat * style.size) = _
    rw [show (delta []).toNat = 0 from rfl, Nat.zero_mul, Nat.add_zero, wrap_of_lt (column_lt _ _)]

/-- A new line is told by the lines above it and their keywords. -/
theorem newLineColumn_eq (text : Text) (number : Nat) (style : Style) :
    newLineColumn text number style = columnBelow style (((lineTexts text).take number).zip
      (keywordsFrom .code ((lineTexts text).take number))) := by
  have habove : ((lineTexts text).zip (keywordLines text number)).take number =
      ((lineTexts text).take number).zip (keywordsFrom .code ((lineTexts text).take number)) := by
    rw [List.zip_eq_zipWith, List.take_zipWith, keywordLines, take_keywordsFrom, List.take_take,
      Nat.min_eq_left (Nat.le_succ _), List.zip_eq_zipWith]
  simp only [newLineColumn, habove]
  rfl

/-! ## Inserted lines -/

/-- The second document has further lines above one of the first. -/
def InsertedAbove (text after : Text) (number : Nat) (inserted : List Text) : Prop :=
  rawLines after = (rawLines text).take number ++ inserted ++ (rawLines text).drop number

instance (text after : Text) (number : Nat) (inserted : List Text) :
    Decidable (InsertedAbove text after number inserted) := inferInstanceAs (Decidable (_ = _))

/-- The lines above the line that has moved. -/
theorem InsertedAbove.take_lineTexts (hinserted : InsertedAbove text after number inserted) :
    (lineTexts after).take (number + inserted.length) =
      (lineTexts text).take number ++ inserted.map dropLineFeed := by
  rw [lineTexts, hinserted, lineTexts, ← List.map_take, ← List.map_take, ← List.map_append]
  refine congrArg (List.map dropLineFeed) ?_
  rcases Nat.le_total number (rawLines text).length with hle | hbeyond
  · exact List.take_left' (by simp [hle])
  · rw [List.drop_of_length_le hbeyond, List.append_nil]
    refine List.take_of_length_le ?_
    rw [List.length_append, List.length_take]
    omega

/-- The column of a line above which comments have been inserted. -/
theorem newLineColumn_inserted (hinserted : InsertedAbove text after number inserted)
    (hcode : behindLines .code ((lineTexts text).take number) = .code)
    (hcomments : CommentLines .code (inserted.map dropLineFeed) behind) (style : Style) :
    newLineColumn after (number + inserted.length) style =
      match lastUnskipped? (inserted.map dropLineFeed) with
      | none => newLineColumn text number style
      | some line => column line style.tabSize := by
  have hbare : (inserted.map dropLineFeed).zip ((inserted.map dropLineFeed).map fun _ => []) =
      (inserted.map dropLineFeed).map fun line => (line, ([] : List Text)) := by
    rw [← List.zip_map', List.map_id']
  have hzip : ((lineTexts after).take (number + inserted.length)).zip
      (keywordsFrom .code ((lineTexts after).take (number + inserted.length))) =
        ((lineTexts text).take number).zip (keywordsFrom .code ((lineTexts text).take number)) ++
          (inserted.map dropLineFeed).map fun line => (line, []) := by
    rw [hinserted.take_lineTexts, keywordsFrom_append, hcode, hcomments.keywordsFrom_eq,
      List.zip_append (length_keywordsFrom _ _).symm, hbare]
  rw [newLineColumn_eq after, hzip, columnBelow_append, ← newLineColumn_eq]

/-- Comments that end on the line on which they begin leave the column of the line below them as
it is. -/
theorem newLineColumn_inserted_apart (hinserted : InsertedAbove text after number inserted)
    (hcode : behindLines .code ((lineTexts text).take number) = .code)
    (hcomments : ∀ line ∈ inserted.map dropLineFeed, Comments .code line .code) (style : Style) :
    newLineColumn after (number + inserted.length) style = newLineColumn text number style := by
  have hskipped : lastUnskipped? (inserted.map dropLineFeed) = none := by
    rw [lastUnskipped?, List.find?_eq_none]
    intro line hline
    simp [(hcomments line (List.mem_reverse.mp hline)).isSkippable rfl]
  rw [newLineColumn_inserted hinserted hcode (.of_forall hcomments), hskipped]

/-- Comments that are inserted above a line leave its column for a new line as it is if and only
if the last of their lines that is neither blank nor begins with two dashes stands at this column.
-/
theorem newLineColumn_inserted_iff (hinserted : InsertedAbove text after number inserted)
    (hcode : behindLines .code ((lineTexts text).take number) = .code)
    (hcomments : CommentLines .code (inserted.map dropLineFeed) .code) (style : Style) :
    newLineColumn after (number + inserted.length) style = newLineColumn text number style ↔
      ∀ line, lastUnskipped? (inserted.map dropLineFeed) = some line →
        column line style.tabSize = newLineColumn text number style := by
  rw [newLineColumn_inserted hinserted hcode hcomments]
  cases lastUnskipped? (inserted.map dropLineFeed) with
  | none => simp
  | some line => simp

/-- A comment whose second line is no end of it, and whose third stands where the new line does.
-/
theorem newLineColumn_inserted_block :
    let text := "if a then\n".toList
    let inserted := ["  --[=[ x\n".toList, "end ]]\n".toList, "    ]=]\n".toList]
    let after := "if a then\n  --[=[ x\nend ]]\n    ]=]\n".toList
    InsertedAbove text after 1 inserted ∧
      behindLines .code ((lineTexts text).take 1) = .code ∧
      CommentLines .code (inserted.map dropLineFeed) .code ∧
      newLineColumn after 4 ⟨4, 4, true⟩ = newLineColumn text 1 ⟨4, 4, true⟩ := by
  intro text inserted after
  have hinserted : InsertedAbove text after 1 inserted := by decide +kernel
  have hcode : behindLines .code ((lineTexts text).take 1) = .code := by decide +kernel
  have hopens : NeverCloses (ClosesLong 1) " x".toList := Lexer.longClose?_closes 1 " x".toList
  have hinside : NeverCloses (ClosesLong 1) "end ]]".toList :=
    Lexer.longClose?_closes 1 "end ]]".toList
  have hcloses : ClosesFirst (ClosesLong 1) "    ]=]".toList :=
    Lexer.longClose?_closes 1 "    ]=]".toList
  have hcomments : CommentLines .code (inserted.map dropLineFeed) .code :=
    .cons (.blank rfl (.blank rfl (.opened (.goesOn hopens))))
      (.cons (.goesOn hinside) (.cons (.closed hcloses .nil) .nil))
  have hlast : lastUnskipped? (inserted.map dropLineFeed) = some "    ]=]".toList := by
    decide +kernel
  refine ⟨hinserted, hcode, hcomments,
    (newLineColumn_inserted_iff hinserted hcode hcomments ⟨4, 4, true⟩).mpr fun line hline => ?_⟩
  obtain rfl : "    ]=]".toList = line := Option.some.inj (hlast.symm.trans hline)
  decide +kernel

/-- A comment over several lines whose end stands at the front of its line takes the line below it
out of the block. -/
theorem newLineColumn_below_comment :
    let text := "if a then\n".toList
    let inserted := ["--[[\n".toList, "]]\n".toList]
    let after := "if a then\n--[[\n]]\n".toList
    InsertedAbove text after 1 inserted ∧
      behindLines .code ((lineTexts text).take 1) = .code ∧
      CommentLines .code (inserted.map dropLineFeed) .code ∧
      newLineColumn text 1 ⟨4, 4, true⟩ = 4 ∧ newLineColumn after 3 ⟨4, 4, true⟩ = 0 := by
  have hopens : NeverCloses (ClosesLong 0) [] := Lexer.longClose?_closes 0 []
  have hcloses : ClosesFirst (ClosesLong 0) "]]".toList := Lexer.longClose?_closes 0 "]]".toList
  refine ⟨by decide +kernel, by decide +kernel, ?_, by decide +kernel, by decide +kernel⟩
  exact .cons (.opened (.goesOn hopens)) (.cons (.closed hcloses .nil) .nil)

end LuaAssist.Indent

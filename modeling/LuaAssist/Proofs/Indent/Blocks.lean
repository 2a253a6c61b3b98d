import LuaAssist.Proofs.Indent.Roles
import LuaAssist.Proofs.Text.Names

/-!
# The lines around blocks

Every line of a program plays one role, whatever texts it is made of, if these are plain and do
not swallow what follows them on their line.
-/

namespace LuaAssist.Indent

open Lexer (words stateBehind Finishes isNameStart isNamePart)

/-- A block whose keyword or parenthesis behind its text is not swallowed by that text. -/
def Block.IsFinished : Block → Prop
  | .whileDo text | .forDo text => Finishes text ' '
  | .callback callee _ => Finishes callee '('
  | _ => True

instance : (block : Block) → Decidable block.IsFinished
  | .whileDo text | .forDo text => inferInstanceAs (Decidable (Finishes text ' '))
  | .callback callee _ => inferInstanceAs (Decidable (Finishes callee '('))
  | .justDo | .repeatUntil _ | .function _ _ => isTrue trivial

/-- A program in which no text swallows what stands behind it on its line. -/
def Program.IsFinished (program : Program) : Prop :=
  program.All (fun _ => True) Block.IsFinished fun condition => Finishes condition ' '

instance (program : Program) : Decidable program.IsFinished := Program.decideAll program

/-! ## Texts put together -/

/-- Two texts have no break if neither has one. -/
@[simp] theorem unbroken_append {text other : Text} :
    Document.Unbroken (text ++ other) ↔ Document.Unbroken text ∧ Document.Unbroken other :=
  List.forall_mem_append

/-- A line that begins with a name is not blank and no comment. -/
theorem begins_of_isNameStart {c : Char} (hc : isNameStart c = true) (rest : Text) :
    (c :: rest).head?.any (fun c => !Text.isBlank c) = true ∧ ¬ "--".toList <+: c :: rest := by
  have hnone : ∀ code ∈ Text.blankCodes, isNameStart (Char.ofNat code) = false := by
    decide +kernel
  constructor
  · cases hblank : Text.isBlank c with
    | false => simp [hblank]
    | true =>
      have hother := hnone c.toNat (Text.toNat_mem_blankCodes hblank)
      rw [Char.ofNat_toNat, hc] at hother
      cases hother
  · intro hcomment
    have hdash : '-' = c := (List.cons_prefix_cons.mp hcomment).1
    subst hdash
    cases hc

/-- A word with a text behind it, separated by a blank. -/
theorem words_spaced (keyword : Text) (hstart : keyword.head?.any isNameStart = true)
    (hname : ∀ d ∈ keyword, isNamePart d = true) (text : Text) :
    words (keyword ++ ' ' :: text) = keyword :: words text ∧
      stateBehind (keyword ++ ' ' :: text) = stateBehind text := by
  obtain ⟨hfront, hfrontState⟩ := Lexer.words_front hstart hname ' ' (by decide) text
  obtain ⟨hblank, hblankState⟩ := Lexer.skip_blank (c := ' ') (by decide) text
  exact ⟨by rw [hfront, hblank], hfrontState.trans hblankState⟩

/-- A condition between two words. -/
theorem words_condition {keyword condition : Text}
    (hstart : keyword.head?.any isNameStart = true) (hname : ∀ d ∈ keyword, isNamePart d = true)
    (hfinishes : Finishes condition ' ') (behind : Text) :
    words (keyword ++ ' ' :: (condition ++ ' ' :: behind)) =
        keyword :: (words condition ++ words behind) ∧
      stateBehind (keyword ++ ' ' :: (condition ++ ' ' :: behind)) = stateBehind behind := by
  obtain ⟨hfront, hfrontState⟩ := words_spaced _ hstart hname (condition ++ ' ' :: behind)
  obtain ⟨htext, htextState⟩ := Lexer.words_append (.inl rfl) hfinishes behind
  obtain ⟨hblank, hblankState⟩ := Lexer.skip_blank (c := ' ') (by decide) behind
  exact ⟨by rw [hfront, htext, hblank], by rw [hfrontState, htextState, hblankState]⟩

/-! ## Lines -/

/-- A line of a keyword, a condition and another keyword. -/
theorem plays_condition {role : Role} {keyword condition behind : Text}
    (hkeyword : keyword.head?.any isNameStart = true ∧ ∀ d ∈ keyword, isNamePart d = true)
    (hbehind : words behind = [behind] ∧ stateBehind behind = .code)
    (hunbroken : Document.Unbroken keyword ∧ Document.Unbroken behind)
    (hmarked : Marked role ([keyword, behind].filter isMark))
    (hquiet : role.aligns = false → ∀ word ∈ [keyword, behind], ∀ stem ∈ closingStems,
      ¬ stem <+: word)
    (hstem : role.aligns = true → ∃ stem ∈ closingStems, stem <+: keyword)
    (hpart : IsPart condition) (hfinishes : Finishes condition ' ') :
    Plays role (keyword ++ ' ' :: (condition ++ ' ' :: behind)) := by
  obtain ⟨hwords, hstate⟩ := words_condition hkeyword.1 hkeyword.2 hfinishes behind
  have hbegins : (keyword ++ ' ' :: (condition ++ ' ' :: behind)).head?.any
      (fun c => !Text.isBlank c) = true ∧
      ¬ "--".toList <+: keyword ++ ' ' :: (condition ++ ' ' :: behind) := by
    cases keyword with
    | nil => cases hkeyword.1
    | cons c rest => exact begins_of_isNameStart hkeyword.1 _
  have hmarks : marks (keyword ++ ' ' :: (condition ++ ' ' :: behind)) =
      [keyword, behind].filter isMark := by
    have hnone := hpart.marks_eq
    rw [marks] at hnone ⊢
    rw [hwords, hbehind.1, List.filter_cons, List.filter_append, hnone, List.nil_append,
      ← List.filter_cons]
  refine plays_of_marks (hmarks ▸ hmarked) ?_ (hstate.trans hbehind.2) hbegins.1 hbegins.2
    (fun hrole word hword => ?_) (fun hrole => ?_)
  · have hblank : Document.isBreak ' ' = false := by decide
    simp only [Document.Unbroken, List.forall_mem_append, List.forall_mem_cons]
    exact ⟨hunbroken.1, hblank, hpart.unbroken, hblank, hunbroken.2⟩
  · rw [hwords, hbehind.1, List.mem_cons, List.mem_append] at hword
    rcases hword with rfl | hword | hword
    · exact hquiet hrole _ (List.mem_cons_self ..)
    · exact (hpart.word word hword).2
    · exact hquiet hrole _ (List.mem_cons_of_mem _ hword)
  · obtain ⟨stem, hmem, hpre⟩ := hstem hrole
    exact ⟨stem, hmem, hpre.trans (List.prefix_append _ _)⟩

/-- A line of some words and a text behind them. -/
theorem plays_ending {role : Role} {line text : Text} (front : List Text)
    (hstart : line.head?.any isNameStart = true) (hwords : words line = front ++ words text)
    (hstate : stateBehind line = stateBehind text) (hunbroken : Document.Unbroken line)
    (hmarked : Marked role (front.filter isMark))
    (hquiet : role.aligns = false → ∀ word ∈ front, ∀ stem ∈ closingStems, ¬ stem <+: word)
    (hstem : role.aligns = true → ∃ stem ∈ closingStems, stem <+: line) (hpart : IsPart text) :
    Plays role line := by
  have hbegins : line.head?.any (fun c => !Text.isBlank c) = true ∧ ¬ "--".toList <+: line := by
    cases line with
    | nil => cases hstart
    | cons c rest => exact begins_of_isNameStart hstart rest
  have hmarks : marks line = front.filter isMark := by
    have hnone := hpart.marks_eq
    rw [marks] at hnone ⊢
    rw [hwords, List.filter_append, hnone, List.append_nil]
  refine plays_of_marks (hmarks ▸ hmarked) hunbroken (hstate.trans hpart.closed) hbegins.1
    hbegins.2 (fun hrole word hword => ?_) hstem
  rw [hwords, List.mem_append] at hword
  exact hword.elim (hquiet hrole word) fun hmem => (hpart.word word hmem).2

/-! ## The lines of blocks -/

/-- The line in front of a loop's body. -/
theorem plays_loop {keyword condition : Text} (hkeyword : keyword ∈ ["while".toList, "for".toList])
    (hpart : IsPart condition) (hfinishes : Finishes condition ' ') :
    Plays .opening (keyword ++ ' ' :: (condition ++ ' ' :: "do".toList)) := by
  have hall : ∀ keyword ∈ ["while".toList, "for".toList],
      (keyword.head?.any isNameStart = true ∧ ∀ d ∈ keyword, isNamePart d = true) ∧
        Document.Unbroken keyword ∧ [keyword, "do".toList].filter isMark = ["do".toList] ∧
        ∀ word ∈ [keyword, "do".toList], ∀ stem ∈ closingStems, ¬ stem <+: word := by
    decide +kernel
  obtain ⟨hname, hunbroken, hmarks, hquiet⟩ := hall keyword hkeyword
  refine plays_condition hname (by decide +kernel) ⟨hunbroken, by decide⟩ ?_ (fun _ => hquiet) nofun
    hpart hfinishes
  rw [hmarks]
  exact .opening (by decide) (by decide)

/-- The line that begins a choice. -/
theorem plays_choiceLine {condition : Text} (hpart : IsPart condition)
    (hfinishes : Finishes condition ' ') : Plays .opening (choiceLine condition) := by
  have hline : choiceLine condition =
      "if".toList ++ ' ' :: (condition ++ ' ' :: "then".toList) := by
    unfold choiceLine
    simp
  have hmarks : ["if".toList, "then".toList].filter isMark = ["then".toList] := by decide
  rw [hline]
  exact plays_condition (by decide) (by decide +kernel) (by decide)
    (hmarks ▸ .opening (by decide) (by decide)) (fun _ => by decide) nofun hpart hfinishes

/-- The line that begins another branch. -/
theorem plays_branchLine {condition : Text} (hpart : IsPart condition)
    (hfinishes : Finishes condition ' ') : Plays .between (branchLine condition) := by
  have hline : branchLine condition =
      "elseif".toList ++ ' ' :: (condition ++ ' ' :: "then".toList) := by
    unfold branchLine
    simp
  have hmarks : ["elseif".toList, "then".toList].filter isMark =
      ["elseif".toList, "then".toList] := by decide
  rw [hline]
  exact plays_condition (by decide) (by decide +kernel) (by decide)
    (hmarks ▸ .two (by decide) (by decide)) nofun (fun _ => by decide) hpart hfinishes

/-- The line in front of the last branch. -/
theorem plays_else : Plays .between "else".toList := by
  have hmarks : marks "else".toList = ["else".toList] := by decide +kernel
  exact plays_of_marks (hmarks ▸ .both (by decide) (by decide)) (by decide) (by decide +kernel)
    (by decide) (by decide) nofun fun _ => by decide

/-- The lines that end blocks of all kinds but one. -/
theorem plays_end {line : Text} (hline : line ∈ ["end".toList, "end)".toList]) :
    Plays .closing line := by
  have hall : ∀ line ∈ ["end".toList, "end)".toList], marks line = ["end".toList] ∧
      Document.Unbroken line ∧ stateBehind line = .code ∧
      line.head?.any (fun c => !Text.isBlank c) = true ∧ ¬ "--".toList <+: line ∧
      ∃ stem ∈ closingStems, stem <+: line := by
    decide +kernel
  obtain ⟨hmarks, hunbroken, hstate, hbegins, hcomment, hstem⟩ := hall line hline
  exact plays_of_marks (hmarks ▸ .closing (by decide) (by decide)) hunbroken hstate hbegins
    hcomment nofun fun _ => hstem

/-- The line that ends a loop with its condition behind. -/
theorem plays_until {condition : Text} (hpart : IsPart condition) :
    Plays .closing ("until ".toList ++ condition) := by
  have hline : "until ".toList ++ condition = "until".toList ++ ' ' :: condition := by simp
  have hmarks : ["until".toList].filter isMark = ["until".toList] := by decide
  obtain ⟨hwords, hstate⟩ := words_spaced "until".toList (by decide) (by decide) condition
  rw [← hline] at hwords hstate
  exact plays_ending ["until".toList] (by simp [isNameStart]) hwords hstate
    (unbroken_append.mpr ⟨by decide, hpart.unbroken⟩) (hmarks ▸ .closing (by decide) (by decide))
    nofun (fun _ => ⟨"until".toList, by decide, _, hline.symm⟩) hpart

/-- The line in front of a function's body. -/
theorem plays_function {header : Text} (hpart : IsPart header) (isLocal : Bool) :
    Plays .opening (Block.function isLocal header).first := by
  have hmarks : ["function".toList].filter isMark = ["function".toList] ∧
      ["local".toList, "function".toList].filter isMark = ["function".toList] := by decide
  obtain ⟨hwords, hstate⟩ := words_spaced "function".toList (by decide) (by decide) header
  cases isLocal with
  | false =>
    have hline : (Block.function false header).first = "function".toList ++ ' ' :: header := by
      unfold Block.first
      simp
    rw [hline]
    refine plays_ending ["function".toList] (by simp [isNameStart]) hwords hstate ?_ ?_
      (fun _ => by decide) nofun hpart
    · exact unbroken_append.mpr ⟨by decide, List.forall_mem_cons.mpr ⟨by decide, hpart.unbroken⟩⟩
    · rw [hmarks.1]
      exact .opening (by decide) (by decide)
  | true =>
    have hline : (Block.function true header).first =
        "local".toList ++ ' ' :: ("function".toList ++ ' ' :: header) := by
      unfold Block.first
      simp
    obtain ⟨hlocal, hlocalState⟩ := words_spaced "local".toList (by decide) (by decide)
      ("function".toList ++ ' ' :: header)
    rw [hline]
    refine plays_ending ["local".toList, "function".toList] (by simp [isNameStart])
      (by rw [hlocal, hwords]; rfl) (hlocalState.trans hstate) ?_ ?_ (fun _ => by decide) nofun
      hpart
    · refine unbroken_append.mpr ⟨by decide, List.forall_mem_cons.mpr ⟨by decide, ?_⟩⟩
      exact unbroken_append.mpr ⟨by decide, List.forall_mem_cons.mpr ⟨by decide, hpart.unbroken⟩⟩
    · rw [hmarks.2]
      exact .opening (by decide) (by decide)

/-- The words of a call with a function as its last argument. -/
theorem words_callback {callee arguments : Text} (hfinishes : Finishes callee '(')
    (hclosed : stateBehind arguments = .code) :
    let line := callee ++ '(' :: ("function".toList ++ '(' :: (arguments ++ [')']))
    words line = words callee ++ "function".toList :: words (arguments ++ [')']) ∧
      stateBehind line = .code := by
  have hname : ("function".toList.head?.any isNameStart = true) ∧
      ∀ d ∈ "function".toList, isNamePart d = true := by decide
  obtain ⟨hfront, hfrontState⟩ := Lexer.words_append (.inr rfl) hfinishes
    ("function".toList ++ '(' :: (arguments ++ [')']))
  obtain ⟨houter, houterState⟩ :=
    Lexer.skip_paren ("function".toList ++ '(' :: (arguments ++ [')']))
  obtain ⟨hword, hwordState⟩ :=
    Lexer.words_front hname.1 hname.2 '(' (by decide) (arguments ++ [')'])
  obtain ⟨hinner, hinnerState⟩ := Lexer.skip_paren (arguments ++ [')'])
  obtain ⟨-, hlastState⟩ := Lexer.append_paren hclosed
  exact ⟨by rw [hfront, houter, hword, hinner],
    by rw [hfrontState, houterState, hwordState, hinnerState, hlastState]⟩

/-- The line of a call with a function as its last argument. -/
theorem plays_callback {callee arguments : Text} (hcallee : IsPlain callee)
    (hfinishes : Finishes callee '(') (harguments : IsPart arguments) :
    Plays .opening (Block.callback callee arguments).first := by
  have hline : (Block.callback callee arguments).first =
      callee ++ '(' :: ("function".toList ++ '(' :: (arguments ++ [')'])) := by
    unfold Block.first
    simp
  obtain ⟨hwords, hstate⟩ := words_callback hfinishes harguments.closed
  obtain ⟨hlast, -⟩ := Lexer.append_paren harguments.closed
  have hmarks : marks (callee ++ '(' :: ("function".toList ++ '(' :: (arguments ++ [')']))) =
      ["function".toList] := by
    have hfunction : isMark "function".toList = true := by decide
    have hcalleeMarks := hcallee.marks_eq
    have hargumentMarks : (words (arguments ++ [')'])).filter isMark = [] := by
      rw [List.filter_eq_nil_iff]
      intro word hmem
      simp [(harguments.word word (hlast word hmem)).1]
    rw [marks] at hcalleeMarks ⊢
    rw [hwords, List.filter_append, hcalleeMarks, List.nil_append,
      List.filter_cons_of_pos hfunction, hargumentMarks]
  rw [hline]
  refine plays_of_marks ?_ ?_ hstate ?_ ?_ (fun _ word hmem => ?_) fun haligns =>
    absurd haligns Bool.false_ne_true
  · rw [hmarks]
    exact .opening (by decide) (by decide)
  · have hparenBreak : Document.isBreak '(' = false ∧ Document.isBreak ')' = false := by decide
    simp only [Document.Unbroken, List.forall_mem_append, List.forall_mem_cons]
    exact ⟨hcallee.unbroken, hparenBreak.1, by decide, hparenBreak.1, harguments.unbroken,
      hparenBreak.2, List.forall_mem_nil _⟩
  · cases callee with
    | nil => cases hcallee.begins
    | cons c rest => exact hcallee.begins
  · -- A callee of one character has a parenthesis behind it, and a longer one begins the line.
    intro hcomment
    rcases callee with _ | ⟨c, _ | ⟨d, rest⟩⟩
    · cases hcallee.begins
    · have hparen := (List.cons_prefix_cons.mp (List.cons_prefix_cons.mp hcomment).2).1
      exact absurd hparen (by decide)
    · obtain ⟨hc, hd⟩ := List.cons_prefix_cons.mp hcomment
      refine hcallee.notComment (List.cons_prefix_cons.mpr ⟨hc, List.cons_prefix_cons.mpr
        ⟨(List.cons_prefix_cons.mp hd).1, List.nil_prefix⟩⟩)
  · rw [hwords, List.mem_append, List.mem_cons] at hmem
    rcases hmem with hmem | rfl | hmem
    · exact (hcallee.word word hmem).2
    · decide
    · exact (harguments.word word (hlast word hmem)).2

/-- The lines that begin blocks without a text of their own. -/
theorem plays_bare {line : Text} (hline : line ∈ ["do".toList, "repeat".toList]) :
    Plays .opening line := by
  have hall : ∀ line ∈ ["do".toList, "repeat".toList], marks line = [line] ∧
      (opens line = true ∧ closes line = false) ∧
      Document.Unbroken line ∧ stateBehind line = .code ∧
      line.head?.any (fun c => !Text.isBlank c) = true ∧ ¬ "--".toList <+: line ∧
      ∀ word ∈ words line, ∀ stem ∈ closingStems, ¬ stem <+: word := by
    decide +kernel
  obtain ⟨hmarks, hopens, hunbroken, hstate, hbegins, hcomment, hquiet⟩ := hall line hline
  exact plays_of_marks (hmarks ▸ .opening hopens.1 hopens.2) hunbroken hstate hbegins hcomment
    (fun _ => hquiet) nofun

/-- The line in front of a block's body opens a level. -/
theorem Block.plays_first {block : Block} (hplain : block.IsPlain) (hfinished : block.IsFinished) :
    Plays .opening block.first := by
  cases block with
  | whileDo condition =>
    have hline : (Block.whileDo condition).first =
        "while".toList ++ ' ' :: (condition ++ ' ' :: "do".toList) := by
      unfold Block.first
      simp
    rw [hline]
    exact plays_loop (by decide) hplain.toIsPart hfinished
  | forDo header =>
    have hline : (Block.forDo header).first =
        "for".toList ++ ' ' :: (header ++ ' ' :: "do".toList) := by
      unfold Block.first
      simp
    rw [hline]
    exact plays_loop (by decide) hplain.toIsPart hfinished
  | justDo => exact plays_bare (by decide)
  | repeatUntil condition => exact plays_bare (List.mem_cons_of_mem _ (List.mem_cons_self ..))
  | function isLocal header => exact plays_function hplain.toIsPart isLocal
  | callback callee arguments => exact plays_callback hplain.1 hfinished hplain.2

/-- The line behind a block's body closes a level. -/
theorem Block.plays_last {block : Block} (hplain : block.IsPlain) : Plays .closing block.last := by
  cases block with
  | repeatUntil condition => exact plays_until hplain.toIsPart
  | callback callee arguments => exact plays_end (List.mem_cons_of_mem _ (List.mem_cons_self ..))
  | _ => exact plays_end (List.mem_cons_self ..)

end LuaAssist.Indent

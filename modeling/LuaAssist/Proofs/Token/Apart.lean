import LuaAssist.Proofs.Document.Joined
import LuaAssist.Proofs.Scope.Refined
import LuaAssist.Proofs.Token.Words

/-!
# Words that keep apart

Words are written one behind the other, with blanks between them at least where a word would go
on with what follows. A word stands if it is a token of its own wherever it does not go on.
Standing words are found again as the words of the lines on which they are written, up to the
finer categories of names.
-/

namespace LuaAssist

/-- A blank between two words: a space, a tab or a line feed. -/
def isGap (c : Char) : Bool := c = ' ' || c = '\t' || c = '\n'

/-- Nothing follows, or a blank. -/
def Ends (rest : Text) : Prop := rest.head?.all isGap = true

/-- A text of words with blanks around them, at least one between each two. -/
inductive Spaced : List Text → Text → Prop
  | nil : Spaced [] []
  | gap {c : Char} {words : List Text} {text : Text} (hc : isGap c = true)
      (htext : Spaced words text) : Spaced words (c :: text)
  | word {word : Text} {words : List Text} {rest : Text} (hends : Ends rest)
      (hrest : Spaced words rest) : Spaced (word :: words) (word ++ rest)

/-- Checks that a text is made of some words with blanks around them. -/
def isSpaced : List Text → Text → Bool
  | [], text => text.all isGap
  | word :: words, text =>
    let front := text.dropWhile isGap
    let rest := front.drop word.length
    word.isPrefixOf front && rest.head?.all isGap && isSpaced words rest

/-- Blanks may stand in front of the words. -/
theorem Spaced.of_dropWhile {words : List Text} {text : Text}
    (hspaced : Spaced words (text.dropWhile isGap)) : Spaced words text := by
  induction text with
  | nil => exact hspaced
  | cons c text ih =>
    cases hc : isGap c with
    | true =>
      rw [List.dropWhile_cons_of_pos hc] at hspaced
      exact .gap hc (ih hspaced)
    | false => rwa [List.dropWhile_cons_of_neg (by simp [hc])] at hspaced

/-- What is checked is so. -/
theorem Spaced.of_isSpaced {words : List Text} {text : Text} (hcheck : isSpaced words text = true) :
    Spaced words text := by
  induction words generalizing text with
  | nil =>
    induction text with
    | nil => exact .nil
    | cons c text ih =>
      rw [isSpaced, List.all_cons, Bool.and_eq_true] at hcheck
      exact .gap hcheck.1 (ih hcheck.2)
  | cons word words ih =>
    simp only [isSpaced, Bool.and_eq_true, List.isPrefixOf_iff_prefix] at hcheck
    obtain ⟨⟨⟨rest, hfront⟩, hends⟩, hrest⟩ := hcheck
    refine .of_dropWhile ?_
    rw [← hfront, List.drop_left] at hends hrest
    rw [← hfront]
    exact .word hends (ih hrest)

namespace Word

/-- The character would make the word longer if it stood behind it. -/
def lengthens (word : Word) (next : Char) : Bool :=
  match word.kind with
  | .string => false
  | .number => Lexer.isNamePart next || next = '.' || next = '+' || next = '-'
  | .operator =>
    match word.text with
    | ['='] => next = '='
    | ['['] => next = '[' || next = '='
    | ['.'] => next = '.' || next.isDigit
    | [':'] => next = ':'
    | _ => false
  | _ => Lexer.isNamePart next

/-- The word does not go on with the text behind it. -/
def EndsBefore (word : Word) (rest : Text) : Prop :=
  ∀ next ∈ rest.head?, word.lengthens next = false

instance (word : Word) (rest : Text) : Decidable (word.EndsBefore rest) :=
  inferInstanceAs (Decidable (∀ next ∈ rest.head?, _))

/-- No word goes on with a blank. -/
theorem endsBefore_of_ends {rest : Text} (word : Word) (hends : Ends rest) :
    word.EndsBefore rest := by
  intro next hnext
  rw [Ends, Option.mem_def.mp hnext] at hends
  simp only [Option.all_some, isGap, Bool.or_eq_true, decide_eq_true_eq] at hends
  unfold lengthens
  rcases hends with (rfl | rfl) | rfl <;>
  · split
    · rfl
    · rfl
    · split <;> rfl
    · rfl

/-- A word that ends in front of a text ends in front of its beginning. -/
theorem EndsBefore.of_prefix {word : Word} {front rest : Text} (hends : word.EndsBefore rest)
    (hfront : front <+: rest) : word.EndsBefore front := by
  obtain ⟨behind, rfl⟩ := hfront
  intro next hnext
  obtain ⟨tail, rfl⟩ := List.head?_eq_some_iff.mp hnext
  exact hends next rfl

/-- The text is written with these words: blanks stand around them, and a word without a blank
behind it does not go on. -/
inductive Written : List Word → Text → Prop
  | nil : Written [] []
  | blank {c : Char} {words : List Word} {text : Text} (hc : Lexer.isSpace c = true)
      (htext : Written words text) : Written words (c :: text)
  | word {word : Word} {words : List Word} {rest : Text} (hends : word.EndsBefore rest)
      (hrest : Written words rest) : Written (word :: words) (word.text ++ rest)

/-- Checks that a text is written with some words. -/
def isWritten : List Word → Text → Bool
  | [], text => text.all Lexer.isSpace
  | word :: words, text =>
    let front := text.dropWhile Lexer.isSpace
    let rest := front.drop word.text.length
    word.text.isPrefixOf front && decide (word.EndsBefore rest) && isWritten words rest

/-- Blanks may stand in front of the words. -/
theorem Written.of_dropWhile {words : List Word} {text : Text}
    (hwritten : Written words (text.dropWhile Lexer.isSpace)) : Written words text := by
  induction text with
  | nil => exact hwritten
  | cons c text ih =>
    cases hc : Lexer.isSpace c with
    | true =>
      rw [List.dropWhile_cons_of_pos hc] at hwritten
      exact .blank hc (ih hwritten)
    | false => rwa [List.dropWhile_cons_of_neg (by simp [hc])] at hwritten

/-- What this check accepts is written so. -/
theorem Written.of_isWritten {words : List Word} {text : Text}
    (hcheck : isWritten words text = true) : Written words text := by
  induction words generalizing text with
  | nil =>
    induction text with
    | nil => exact .nil
    | cons c text ih =>
      rw [isWritten, List.all_cons, Bool.and_eq_true] at hcheck
      exact .blank hcheck.1 (ih hcheck.2)
  | cons word words ih =>
    simp only [isWritten, Bool.and_eq_true, List.isPrefixOf_iff_prefix, decide_eq_true_eq] at hcheck
    obtain ⟨⟨⟨rest, hfront⟩, hends⟩, hrest⟩ := hcheck
    refine .of_dropWhile ?_
    rw [← hfront, List.drop_left] at hends hrest
    rw [← hfront]
    exact .word hends (ih hrest)

/-- Without words there are blanks alone. -/
theorem Written.isSpace_of_mem {text : Text} (hwritten : Written [] text) :
    ∀ c ∈ text, Lexer.isSpace c = true := by
  generalize hnone : ([] : List Word) = words at hwritten
  induction hwritten with
  | nil => exact List.forall_mem_nil _
  | blank hc htext ih => exact List.forall_mem_cons.mpr ⟨hc, ih hnone⟩
  | word => cases hnone

/-- Behind the last word stand blanks. -/
theorem Written.exists_last {words : List Word} {word : Word} {text : Text}
    (hwritten : Written (words ++ [word]) text) :
    ∃ front blanks, text = front ++ word.text ++ blanks ∧
      ∀ c ∈ blanks, Lexer.isSpace c = true := by
  generalize hall : words ++ [word] = all at hwritten
  induction hwritten generalizing words with
  | nil => exact absurd hall (by simp)
  | @blank c others text hc htext ih =>
    obtain ⟨front, blanks, rfl, hblanks⟩ := ih hall
    exact ⟨c :: front, blanks, rfl, hblanks⟩
  | @word first others rest hends hrest ih =>
    cases words with
    | nil =>
      obtain ⟨rfl, rfl⟩ := List.cons.inj hall
      exact ⟨[], rest, rfl, hrest.isSpace_of_mem⟩
    | cons second words =>
      obtain ⟨rfl, hothers⟩ := List.cons.inj hall
      obtain ⟨front, blanks, rfl, hblanks⟩ := ih hothers
      exact ⟨second.text ++ front, blanks, by simp, hblanks⟩

/-- Words with a blank between each two of them keep apart. -/
theorem Written.of_spaced {words : List Word} {text : Text}
    (hspaced : Spaced (words.map Token.text) text) : Written words text := by
  generalize htexts : words.map Token.text = texts at hspaced
  induction hspaced generalizing words with
  | nil =>
    rw [List.map_eq_nil_iff] at htexts
    subst htexts
    exact .nil
  | @gap c texts text hc htext ih =>
    have hspace : Lexer.isSpace c = true := by
      simp only [isGap, Bool.or_eq_true, decide_eq_true_eq] at hc
      rcases hc with (rfl | rfl) | rfl <;> rfl
    exact .blank hspace (ih htexts)
  | @word first texts rest hends hrest ih =>
    obtain ⟨word, words, rfl, rfl, rfl⟩ := List.map_eq_cons_iff.mp htexts
    exact .word (endsBefore_of_ends word hends) (ih rfl)

/-- A word that is a token of its own where it does not go on. -/
structure Stands (word : Word) : Prop where
  unbroken : Document.Unbroken word.text
  reads : ∃ c tail kind, word.text = c :: tail ∧ kind.isTrivia = false ∧
    Token.bare ⟨kind, word.text⟩ = word ∧
    ∀ rest, word.EndsBefore rest → Lexer.read .start c (tail ++ rest) = .closed kind tail.length

end Word

/-! ## One line -/

namespace Lexer

variable {c : Char} {rest : Text} {kind : TokenKind} {more : Nat}

/-- The tokens with meaning on a line of code, all names alike, and what is open behind it. -/
def bareLine (line : Text) : List Token × LineState :=
  ((scan line .code).significant.map Token.bare, (scan line .code).state)

/-- The same whatever is remembered. -/
theorem bareLine_memory (memory : Memory) (line : Text) :
    ((tokensFrom memory .code line).significant.map Token.bare,
      (tokensFrom memory .code line).state) = bareLine line := by
  have hfilter : ∀ tokens : List Token,
      (tokens.filter fun token => !token.kind.isTrivia).map Token.bare =
        (tokens.map Token.bare).filter fun token => !token.kind.isTrivia := by
    intro tokens
    simp only [List.filter_map, Function.comp_def, Token.isTrivia_bare]
  obtain ⟨hstate, htokens⟩ := tokensFrom_memory memory .start .code line
  simp only [bareLine, scan, LineScan.significant, hfilter, hstate,
    Token.map_bare_of_unrefined htokens]

/-- An empty line has no words. -/
@[simp] theorem bareLine_nil : bareLine [] = ([], .code) := by
  simp [bareLine, scan, tokensFrom, LineScan.significant, TokenKind.isTrivia]

/-- The first token of a line, if it leaves nothing open. -/
theorem bareLine_cons (hread : read .start c rest = .closed kind more) :
    bareLine (c :: rest) =
      ((if kind.isTrivia then [] else [Token.bare ⟨kind, c :: rest.take more⟩]) ++
        (bareLine (rest.drop more)).1, (bareLine (rest.drop more)).2) := by
  rw [← bareLine_memory (Memory.start.after ⟨kind, c :: rest.take more⟩) (rest.drop more),
    bareLine, scan, tokensFrom, hread]
  cases hkind : kind.isTrivia <;>
    simp [Reading.closed, LineScan.significant, hkind]

/-- A run of blanks says nothing. -/
theorem bareLine_blanks (hc : isSpace c = true) (rest : Text) :
    bareLine (c :: rest) = bareLine (rest.dropWhile isSpace) := by
  rw [bareLine_cons (read_of_isSpace .start hc rest), drop_length_takeWhile]
  rfl

/-- A blank in front of a line says nothing. -/
theorem bareLine_blank (hc : isSpace c = true) (rest : Text) :
    bareLine (c :: rest) = bareLine rest := by
  rw [bareLine_blanks hc]
  cases rest with
  | nil => rfl
  | cons d rest =>
    cases hd : isSpace d with
    | true => rw [List.dropWhile_cons_of_pos hd, bareLine_blanks hd]
    | false => rw [List.dropWhile_cons_of_neg (by simp [hd])]

/-- A word that stands is the first on its line. -/
theorem bareLine_word {word : Word} (hstands : word.Stands) (hends : word.EndsBefore rest) :
    bareLine (word.text ++ rest) = (word :: (bareLine rest).1, (bareLine rest).2) := by
  obtain ⟨c, tail, kind, htext, hkind, hbare, hread⟩ := hstands.reads
  have hcons := bareLine_cons (hread rest hends)
  rw [List.take_left, List.drop_left, if_neg (by simp [hkind]), ← htext, hbare] at hcons
  rw [htext, List.cons_append, hcons]
  rfl

end Lexer

/-! ## All lines -/

namespace Word

open Document (lineTexts)
open Lexer (bareLine)

/-- The words of lines, all names alike. -/
def bareLines (lines : List Text) : List Word := (ofLines .code lines).map Token.bare

/-- Lines that leave nothing open are read one by one. -/
theorem bareLines_cons {line : Text} {words : List Word} (hline : bareLine line = (words, .code))
    (lines : List Text) : bareLines (line :: lines) = words ++ bareLines lines := by
  obtain ⟨hwords, hstate⟩ := Prod.mk.inj hline
  simp only [bareLines, ofLines, List.map_append, hwords, hstate]

/-- What the first of some lines says can be said on its own, if the line behind it leaves
nothing open. -/
theorem bareLines_congr (words : List Word) {line other : Text}
    (hline : bareLine line = (words ++ (bareLine other).1, (bareLine other).2))
    (lines : List Text) : bareLines (line :: lines) = words ++ bareLines (other :: lines) := by
  obtain ⟨hwords, hstate⟩ := Prod.mk.inj hline
  simp only [bareLines, ofLines, List.map_append, hwords, hstate, List.append_assoc]
  rfl

/-- A blank in front of a text says nothing, even if it is a line of its own. -/
theorem bareLines_blank {c : Char} (hc : Lexer.isSpace c = true) (text : Text) :
    bareLines (lineTexts (c :: text)) = bareLines (lineTexts text) := by
  cases hbreak : Document.isBreak c with
  | false =>
    have hsingle : Document.Unbroken [c] := by simpa [Document.Unbroken] using hbreak
    obtain ⟨first, others, htext, -, hcons⟩ := Document.exists_lineTexts_append hsingle text
    rw [List.singleton_append] at hcons
    rw [hcons, htext, List.singleton_append, bareLines_congr [] (Lexer.bareLine_blank hc first)]
    rfl
  | true =>
    by_cases hpair : c = '\r' ∧ text.head? = some '\n'
    · obtain ⟨rfl, hfeed⟩ := hpair
      obtain ⟨rest, rfl⟩ := List.head?_eq_some_iff.mp hfeed
      rw [lineTexts, lineTexts, Document.rawLines_pair,
        Document.rawLines_break (by decide) (by simp)]
      rfl
    · have hempty : bareLine (Document.dropLineFeed [c]) = ([], .code) := by
        by_cases hfeed : c = '\n'
        · rw [hfeed]
          exact Lexer.bareLine_nil
        · have hkept : Document.dropLineFeed [c] = [c] := by simp [Document.dropLineFeed, hfeed]
          rw [hkept, Lexer.bareLine_blank hc, Lexer.bareLine_nil]
      rw [lineTexts, Document.rawLines_break hbreak (not_and.mp hpair), List.map_cons,
        bareLines_cons hempty]
      rfl

/-- Standing words are the words of the lines that are written with them. -/
theorem bareLines_of_written {words : List Word} {text : Text}
    (hstands : ∀ word ∈ words, Stands word) (hwritten : Written words text) :
    bareLines (lineTexts text) = words := by
  induction hwritten with
  | nil =>
    rw [show lineTexts [] = [[]] from rfl, bareLines_cons Lexer.bareLine_nil]
    rfl
  | blank hc htext ih => rw [bareLines_blank hc, ih hstands]
  | @word word words rest hends hrest ih =>
    rw [List.forall_mem_cons] at hstands
    obtain ⟨first, others, htext, hfirst, hlonger⟩ :=
      Document.exists_lineTexts_append hstands.1.unbroken rest
    rw [hlonger, bareLines_congr [word]
      (Lexer.bareLine_word hstands.1 (hends.of_prefix hfirst)), ← htext, ih hstands.2]
    rfl

/-! ## The lines above a place -/

/-- An empty line behind others has no words. -/
theorem bareLines_concat_nil (lines : List Text) : bareLines (lines ++ [[]]) = bareLines lines := by
  have hempty : ∀ state, (Lexer.scan [] state).significant = [] := by
    rintro (_ | level | level) <;>
      simp [Lexer.scan, Lexer.tokensFrom, Lexer.continueLong, Lexer.longClose?, Lexer.withFront,
        LineScan.significant, TokenKind.isTrivia]
  have hlines : ∀ state, ofLines state (lines ++ [[]]) = ofLines state lines := by
    induction lines with
    | nil => simp [ofLines, hempty]
    | cons line lines ih => simp [ofLines, ih]
  rw [bareLines, hlines, bareLines]

/-- Standing words, written above a line, are the words above it. -/
theorem before_of_written {words : List Word} {text : Text} {offset : Nat}
    (hstands : ∀ word ∈ words, Stands word)
    (hwritten : Written words
      (text.take (Document.lineStart text (Document.lineOf text offset)))) :
    (before text offset).map Token.bare = words := by
  have hwords := bareLines_of_written hstands hwritten
  rwa [Document.lineTexts_take_lineStart (Document.lineOf_lt text offset),
    bareLines_concat_nil] at hwords

end Word

end LuaAssist

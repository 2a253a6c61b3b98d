import LuaAssist.Proofs.Require.Quoted
import Mathlib.Data.List.TakeWhile

/-!
# Searches in front of a comment

What is found on a line by its beginning is found whatever follows it. Behind the code of a line
stands a comment, which begins with a dash, or there are only blanks, and neither goes on with a
word of the code.
-/

namespace LuaAssist

namespace Text

variable {behind code word : Text} {c : Char}

/-- What may stand behind the code of a line: a dash comes first, or there are only blanks. -/
def Apart (behind : Text) : Prop :=
  (∃ rest, behind = '-' :: rest) ∨ ∀ c ∈ behind, isBlank c = true

/-- No character is a dash or a blank. -/
def IsSolid (word : Text) : Prop := ∀ c ∈ word, c ≠ '-' ∧ isBlank c = false

instance (word : Text) : Decidable (IsSolid word) :=
  inferInstanceAs (Decidable (∀ c ∈ word, c ≠ '-' ∧ isBlank c = false))

/-- A front that lacks the character behind a text lies inside the text. -/
theorem prefix_of_head_not_mem {front : Text} (hpre : front <+: code ++ c :: behind)
    (hc : c ∉ front) : front <+: code := by
  rcases List.prefix_or_prefix_of_prefix hpre (List.prefix_append code _) with
    hinside | ⟨tail, rfl⟩
  · exact hinside
  · cases tail with
    | nil => simp
    | cons d tail =>
      obtain ⟨rfl, -⟩ := List.cons_prefix_cons.mp
        ((List.prefix_append_right_inj code).mp hpre)
      exact absurd (by simp) hc

/-- A front whose last character is missing behind a text lies inside the text. -/
theorem prefix_of_last_not_mem {front : Text} (hpre : front ++ [c] <+: code ++ behind)
    (hc : c ∉ behind) : front ++ [c] <+: code := by
  rcases List.prefix_or_prefix_of_prefix hpre (List.prefix_append code _) with
    hinside | ⟨tail, htail⟩
  · exact hinside
  · rcases List.eq_nil_or_concat tail with rfl | ⟨tail, last, rfl⟩
    · exact ⟨[], by rw [← htail, List.append_nil, List.append_nil]⟩
    · rw [← htail, List.prefix_append_right_inj] at hpre
      rw [List.concat_eq_append, ← List.append_assoc] at htail
      obtain rfl : last = c := (List.cons.inj (List.append_inj' htail rfl).2).1
      exact absurd (hpre.subset (by simp)) hc

/-- A text whose last character is missing behind another one stands inside that one. -/
theorem isInfix_of_last_not_mem {part : Text} (hpart : part ++ [c] <:+: code ++ behind)
    (hc : c ∉ behind) : part ++ [c] <:+: code := by
  obtain ⟨skipped, rest, hsplit⟩ := hpart
  have hpre : (skipped ++ part) ++ [c] <+: code ++ behind := ⟨rest, by simpa using hsplit⟩
  obtain ⟨after, hafter⟩ := prefix_of_last_not_mem hpre hc
  exact ⟨skipped, after, by simpa using hafter⟩

/-- The first character behind the code is not one of a word. -/
theorem Apart.not_mem (hbehind : Apart (c :: behind)) (hword : IsSolid word) : c ∉ word := by
  intro hmem
  obtain ⟨hdash, hblank⟩ := hword c hmem
  rcases hbehind with ⟨rest, heq⟩ | hblanks
  · exact hdash (List.cons.inj heq).1
  · rw [hblanks c List.mem_cons_self] at hblank
    cases hblank

/-- A word starts a line if it starts the code. -/
theorem Apart.prefix_append_iff (hbehind : Apart behind) (hword : IsSolid word) :
    word <+: code ++ behind ↔ word <+: code := by
  refine ⟨fun hpre => ?_, fun hpre => hpre.trans (List.prefix_append _ _)⟩
  cases behind with
  | nil => rwa [List.append_nil] at hpre
  | cons d behind => exact prefix_of_head_not_mem hpre (Apart.not_mem hbehind hword)

/-- The same, as it is tested. -/
theorem Apart.isPrefixOf_append (hbehind : Apart behind) (hword : IsSolid word) :
    word.isPrefixOf (code ++ behind) = word.isPrefixOf code := by
  rw [Bool.eq_iff_iff, List.isPrefixOf_iff_prefix, List.isPrefixOf_iff_prefix,
    hbehind.prefix_append_iff hword]

/-! ## Blanks in front -/

/-- Behind blanks the code goes on, or what follows it comes first. -/
theorem trimStart_append (code behind : Text) :
    trimStart (code ++ behind) =
      if trimStart code = [] then trimStart behind else trimStart code ++ behind := by
  unfold trimStart
  rw [List.dropWhile_append]
  simp only [List.isEmpty_iff]

/-- No word comes behind the blanks that follow the code. -/
theorem Apart.not_prefix_trimStart (hbehind : Apart behind) (hne : word ≠ [])
    (hword : IsSolid word) : ¬ word <+: trimStart behind := by
  intro hpre
  obtain ⟨c, rest, rfl⟩ := List.exists_cons_of_ne_nil hne
  obtain ⟨hdash, hblank⟩ := hword c List.mem_cons_self
  rcases hbehind with ⟨rest, rfl⟩ | hblanks
  · rw [trimStart, List.dropWhile_cons_of_neg (by decide)] at hpre
    exact hdash (List.cons_prefix_cons.mp hpre).1
  · rw [trimStart, List.dropWhile_eq_nil_iff.mpr hblanks] at hpre
    exact absurd (List.prefix_nil.mp hpre) hne

/-! ## Words -/

/-- The parts of a cut are the text around the word. -/
theorem eq_of_cutAtWord? {fits : Text → Bool} {before? : Option Char} {text front after : Text}
    (hcut : cutAtWord? word fits before? text = some (front, after)) :
    text = front ++ word ++ after := by
  induction text generalizing before? front with
  | nil => cases hcut
  | cons c rest ih =>
    rw [cutAtWord?] at hcut
    split at hcut
    · rename_i hfound
      obtain ⟨rfl, rfl⟩ := Prod.mk.inj (Option.some.inj hcut)
      simp only [Bool.and_eq_true, List.isPrefixOf_iff_prefix] at hfound
      exact (List.prefix_iff_eq_append.mp hfound.1.2).symm
    · obtain ⟨⟨inner, _⟩, hinner, heq⟩ := Option.map_eq_some_iff.mp hcut
      obtain ⟨rfl, rfl⟩ := Prod.mk.inj heq
      exact congrArg (c :: ·) (ih hinner)

/-- The last character in front of a place is the same if some of the text is passed over. -/
theorem getLast?_or_cons (c : Char) (front : Text) (before? : Option Char) :
    front.getLast?.or (some c) = (c :: front).getLast?.or before? := by
  rw [List.getLast?_cons, Option.or_some, Option.some_or]

/-- A word is found at its first place if its first character does not stand in front of it. -/
theorem cutAtWord?_append {fits : Text → Bool} {before? : Option Char} {c : Char}
    {word front behind : Text} (hfront : c ∉ front)
    (hbefore : ∀ d ∈ front.getLast?.or before?, isWordPart d = false) (hfits : fits behind = true) :
    cutAtWord? (c :: word) fits before? (front ++ (c :: word ++ behind)) =
      some (front, behind) := by
  induction front generalizing before? with
  | nil =>
    have hopen : before?.any isWordPart = false := by
      cases before? with
      | none => rfl
      | some d => exact hbefore d rfl
    have hword : (c :: word).isPrefixOf (c :: word ++ behind) = true :=
      List.isPrefixOf_iff_prefix.mpr (List.prefix_append _ _)
    have hdrop : (c :: word ++ behind).drop (c :: word).length = behind := List.drop_left
    rw [List.nil_append, List.cons_append, cutAtWord?, ← List.cons_append, hword, hdrop, hfits,
      if_pos (by simp [hopen])]
  | cons d front ih =>
    rw [List.mem_cons, not_or] at hfront
    have hmiss : (c :: word).isPrefixOf (d :: (front ++ (c :: word ++ behind))) = false := by
      simp [List.isPrefixOf, hfront.1]
    rw [List.cons_append, cutAtWord?, hmiss, Bool.and_false, Bool.false_and, if_neg (by simp),
      ih hfront.2 (getLast?_or_cons d front before? ▸ hbefore)]
    rfl

section Cut

variable {fits : Text → Bool} {before? : Option Char} (hbehind : Apart behind)
  (hword : IsSolid word)
include hbehind hword

/-- Whether the code is cut at its first character does not depend on what follows it. -/
theorem cuts_append_iff (rest : Text) :
    (!before?.any isWordPart && word.isPrefixOf (c :: rest ++ behind) &&
        fits ((c :: rest ++ behind).drop word.length)) =
      (!before?.any isWordPart && word.isPrefixOf (c :: rest) &&
        fits ((c :: rest).drop word.length ++ behind)) := by
  rw [hbehind.isPrefixOf_append hword]
  cases hpre : word.isPrefixOf (c :: rest) with
  | false => simp
  | true =>
    rw [List.drop_append_of_le_length (List.isPrefixOf_iff_prefix.mp hpre).length_le]

/-- A word that is found in the code is found whatever follows the code. -/
theorem cutAtWord?_append_some {front after : Text}
    (hcut : cutAtWord? word (fun after => fits (after ++ behind)) before? code =
      some (front, after)) :
    cutAtWord? word fits before? (code ++ behind) = some (front, after ++ behind) := by
  induction code generalizing before? front with
  | nil => cases hcut
  | cons c rest ih =>
    rw [List.cons_append, cutAtWord?, ← List.cons_append, cuts_append_iff hbehind hword]
    rw [cutAtWord?] at hcut
    split at hcut
    · rename_i hfound
      obtain ⟨rfl, rfl⟩ := Prod.mk.inj (Option.some.inj hcut)
      simp only [Bool.and_eq_true, List.isPrefixOf_iff_prefix] at hfound
      rw [if_pos (by simpa using hfound), List.drop_append_of_le_length hfound.1.2.length_le]
    · rename_i hfound
      obtain ⟨⟨inner, _⟩, hinner, heq⟩ := Option.map_eq_some_iff.mp hcut
      obtain ⟨rfl, rfl⟩ := Prod.mk.inj heq
      rw [if_neg hfound, ih hinner]
      rfl

/-- A word that is found, but not in the code, stands in what follows the code. -/
theorem cutAtWord?_append_none {front after : Text}
    (hcut : cutAtWord? word (fun after => fits (after ++ behind)) before? code = none)
    (hfound : cutAtWord? word fits before? (code ++ behind) = some (front, after)) :
    ∃ skipped, front = code ++ skipped ∧ behind = skipped ++ word ++ after := by
  induction code generalizing before? front with
  | nil => exact ⟨front, rfl, eq_of_cutAtWord? hfound⟩
  | cons c rest ih =>
    rw [List.cons_append, cutAtWord?, ← List.cons_append, cuts_append_iff hbehind hword]
      at hfound
    rw [cutAtWord?] at hcut
    split at hcut
    · cases hcut
    · rename_i hother
      rw [if_neg hother] at hfound
      obtain ⟨⟨inner, _⟩, hinner, heq⟩ := Option.map_eq_some_iff.mp hfound
      obtain ⟨rfl, rfl⟩ := Prod.mk.inj heq
      obtain ⟨skipped, rfl, hskipped⟩ := ih (Option.map_eq_none_iff.mp hcut) hinner
      exact ⟨skipped, rfl, hskipped⟩

end Cut

/-- Blanks behind the code add no word. -/
theorem cutAtWord?_append_blanks {fits : Text → Bool} {before? : Option Char} {blanks : Text}
    (hblanks : ∀ c ∈ blanks, isBlank c = true) (hword : IsSolid word) (hne : word ≠ [])
    (hfits : ∀ after, fits (after ++ blanks) = fits after) (code : Text) :
    cutAtWord? word fits before? (code ++ blanks) =
      (cutAtWord? word fits before? code).map fun (front, after) => (front, after ++ blanks) := by
  have hsame : (fun after => fits (after ++ blanks)) = fits := funext hfits
  cases hcut : cutAtWord? word fits before? code with
  | some cut =>
    rw [← hsame] at hcut
    exact cutAtWord?_append_some (Or.inr hblanks) hword hcut
  | none =>
    rw [← hsame] at hcut
    rw [Option.map_none, Option.eq_none_iff_forall_ne_some]
    rintro ⟨front, after⟩ hfound
    obtain ⟨skipped, -, hblank⟩ :=
      cutAtWord?_append_none (Or.inr hblanks) hword hcut hfound
    obtain ⟨c, rest, rfl⟩ := List.exists_cons_of_ne_nil hne
    have hsolid := (hword c List.mem_cons_self).2
    rw [hblanks c (by simp [hblank])] at hsolid
    cases hsolid

end Text

namespace Require

open Text (Apart IsSolid)

variable {behind code : Text}

/-! ## Assignments to the search path -/

/-- A sign behind blanks is read whatever follows the code. -/
theorem afterSign?_append {sign : Text} (hbehind : Apart behind) (hsign : IsSolid sign)
    (hne : sign ≠ []) (code : Text) :
    afterSign? sign (code ++ behind) = (afterSign? sign code).map (· ++ behind) := by
  unfold afterSign?
  rw [Text.trimStart_append]
  split
  · rename_i hblank
    rw [if_neg, hblank, if_neg]
    · rfl
    · simpa using hne
    · rw [List.isPrefixOf_iff_prefix]
      exact hbehind.not_prefix_trimStart hne hsign
  · simp only [hbehind.isPrefixOf_append hsign]
    split
    · rename_i hpre
      rw [List.drop_append_of_le_length (List.isPrefixOf_iff_prefix.mp hpre).length_le]
      rfl
    · rfl

/-- What is assigned goes on with what follows the code. -/
theorem assigned?_append (hbehind : Apart behind) (code : Text) :
    assigned? (code ++ behind) = (assigned? code).map (· ++ behind) := by
  have hdot := afterSign?_append hbehind (by decide : IsSolid ['.']) (by decide)
  have hpath := afterSign?_append hbehind (by decide : IsSolid "path".toList) (by decide)
  have hequals := afterSign?_append hbehind (by decide : IsSolid ['=']) (by decide)
  unfold assigned?
  rw [hdot]
  cases afterSign? ['.'] code with
  | none => rfl
  | some first =>
    simp only [Option.map_some, Option.bind_eq_bind, Option.bind_some]
    rw [hpath]
    cases afterSign? "path".toList first with
    | none => rfl
    | some second => exact hequals second

/-! ## Literals -/

/-- A run of characters that are not a quote ends at the quote. -/
theorem takeWhile_quote {quote : Char} {content : Text} (hcontent : quote ∉ content)
    (after : Text) :
    (content ++ quote :: after).takeWhile (fun c => decide (c ≠ quote)) = content := by
  have hall : ∀ c ∈ content, decide (c ≠ quote) = true := by
    rintro c hc
    exact decide_eq_true fun heq => hcontent (heq ▸ hc)
  rw [List.takeWhile_append_of_pos hall, List.takeWhile_cons_of_neg (by simp), List.append_nil]

/-- A literal stands between two equal quotes, of which its content has none. -/
theorem literal?_eq_some_iff {text content after : Text} :
    literal? text = some (content, after) ↔
      ∃ quote, isQuote quote = true ∧ quote ∉ content ∧
        text = quote :: (content ++ quote :: after) := by
  constructor
  · intro hliteral
    obtain ⟨quote, hquote, rfl⟩ := literal?_spec hliteral
    refine ⟨quote, hquote, fun hmem => ?_, rfl⟩
    rw [literal?, if_pos hquote] at hliteral
    dsimp only at hliteral
    split at hliteral
    · obtain ⟨hcontent, -⟩ := Prod.mk.inj (Option.some.inj hliteral)
      rw [← hcontent] at hmem
      have hother := List.mem_takeWhile_imp hmem
      simp at hother
    · cases hliteral
  · rintro ⟨quote, hquote, hcontent, rfl⟩
    rw [literal?, if_pos hquote]
    dsimp only
    rw [takeWhile_quote hcontent, List.drop_left]

/-- A quote is no blank. -/
theorem isBlank_of_isQuote {c : Char} (hquote : isQuote c = true) : Text.isBlank c = false := by
  simp only [isQuote, Bool.or_eq_true, decide_eq_true_eq] at hquote
  rcases hquote with rfl | rfl <;> decide

/-- A quote is not among blanks. -/
theorem quote_not_mem {blanks : Text} {quote : Char}
    (hblanks : ∀ c ∈ blanks, Text.isBlank c = true) (hquote : isQuote quote = true) :
    quote ∉ blanks := by
  intro hmem
  have hblank := hblanks quote hmem
  rw [isBlank_of_isQuote hquote] at hblank
  cases hblank

/-- A literal of the code is one whatever follows the code. -/
theorem literal?_append {text content after : Text}
    (hliteral : literal? text = some (content, after)) (behind : Text) :
    literal? (text ++ behind) = some (content, after ++ behind) := by
  obtain ⟨quote, hquote, hcontent, rfl⟩ := literal?_eq_some_iff.mp hliteral
  exact literal?_eq_some_iff.mpr ⟨quote, hquote, hcontent, by simp⟩

/-- A literal with blanks behind it closes in front of them. -/
theorem literal?_of_blanks {text content after blanks : Text}
    (hblanks : ∀ c ∈ blanks, Text.isBlank c = true)
    (hliteral : literal? (text ++ blanks) = some (content, after)) :
    ∃ rest, literal? text = some (content, rest) := by
  obtain ⟨quote, hquote, hcontent, hsplit⟩ := literal?_eq_some_iff.mp hliteral
  have hlast := quote_not_mem hblanks hquote
  have hlong : (quote :: content ++ [quote]) <+: text ++ blanks := ⟨after, by simp [hsplit]⟩
  obtain ⟨rest, hrest⟩ := Text.prefix_of_last_not_mem hlong hlast
  exact ⟨rest, literal?_eq_some_iff.mpr ⟨quote, hquote, hcontent, by simp [← hrest]⟩⟩

/-- Blanks behind a text add no literal. -/
theorem literals_append_blanks {blanks : Text} (hblanks : ∀ c ∈ blanks, Text.isBlank c = true)
    (text : Text) : literals (text ++ blanks) = literals text := by
  fun_induction literals text with
  | case1 =>
    induction blanks with
    | nil => rw [List.append_nil, literals]
    | cons c blanks ih =>
      rw [List.forall_mem_cons] at hblanks
      have hnone : literal? (c :: blanks) = none := by
        rw [literal?, if_neg]
        intro hquote
        rw [isBlank_of_isQuote hquote] at hblanks
        cases hblanks.1
      rw [List.nil_append] at ih ⊢
      rw [literals, hnone]
      exact ih hblanks.2
  | case2 c rest content after hliteral ih =>
    obtain ⟨quote, -, hsplit⟩ := literal?_spec hliteral
    have hlength := congrArg List.length (List.cons.inj hsplit).2
    rw [List.length_append, List.length_cons] at hlength
    have hlonger := literal?_append hliteral blanks
    rw [List.cons_append] at hlonger ⊢
    rw [literals, hlonger]
    dsimp only
    rw [List.drop_append_of_le_length (by omega), ih]
  | case3 c rest hliteral ih =>
    have hnone : literal? (c :: rest ++ blanks) = none := by
      rw [Option.eq_none_iff_forall_ne_some]
      rintro ⟨content, after⟩ hfound
      obtain ⟨_, hinside⟩ := literal?_of_blanks hblanks hfound
      rw [hinside] at hliteral
      cases hliteral
    rw [List.cons_append] at hnone ⊢
    rw [literals, hnone]
    exact ih

/-! ## References -/

/-- Blanks with at most one opening parenthesis among them. -/
def IsGap (between : Text) : Prop :=
  ∃ front behind, (∀ c ∈ front ++ behind, Text.isBlank c = true) ∧
    (between = front ++ behind ∨ between = front ++ '(' :: behind)

/-- What is skipped behind the word is a gap. -/
theorem isGap_take (text : Text) : IsGap (text.take (gap text)) := by
  have hfront := List.prefix_iff_eq_take.mp (List.takeWhile_prefix Text.isBlank (l := text))
  have hblanks : ∀ text : Text, ∀ c ∈ text.takeWhile Text.isBlank, Text.isBlank c = true :=
    fun text c hc => List.mem_takeWhile_imp hc
  unfold gap
  dsimp only
  split
  · rename_i rest hdrop
    have hsecond := List.prefix_iff_eq_take.mp (List.takeWhile_prefix Text.isBlank (l := rest))
    refine ⟨text.takeWhile Text.isBlank, rest.takeWhile Text.isBlank,
      List.forall_mem_append.mpr ⟨hblanks text, hblanks rest⟩, Or.inr ?_⟩
    rw [Nat.add_assoc, List.take_add, hdrop, ← hfront, Nat.add_comm, List.take_succ_cons,
      ← hsecond]
  · exact ⟨text.takeWhile Text.isBlank, [], by simpa using hblanks text,
      Or.inl (by simp [← hfront])⟩

/-- The gap in front of a quote. -/
theorem gap_append {between : Text} {quote : Char} (hbetween : IsGap between)
    (hquote : isQuote quote = true) (after : Text) :
    gap (between ++ quote :: after) = between.length := by
  have hstop : ∀ blanks : Text, (∀ c ∈ blanks, Text.isBlank c = true) →
      (blanks ++ quote :: after).takeWhile Text.isBlank = blanks := by
    intro blanks hblanks
    rw [List.takeWhile_append_of_pos hblanks,
      List.takeWhile_cons_of_neg (by simp [isBlank_of_isQuote hquote]), List.append_nil]
  obtain ⟨front, behind, hblanks, rfl | rfl⟩ := hbetween
  · have hparen : quote ≠ '(' := by
      rintro rfl
      exact absurd hquote (by decide)
    unfold gap
    rw [hstop _ hblanks]
    dsimp only
    rw [List.drop_left]
    split
    · rename_i heq
      exact absurd (List.cons.inj heq).1 hparen
    · rfl
  · obtain ⟨hfront, hbehind⟩ := List.forall_mem_append.mp hblanks
    have hrun : (front ++ '(' :: behind ++ quote :: after).takeWhile Text.isBlank = front := by
      rw [List.append_assoc, List.takeWhile_append_of_pos hfront, List.cons_append,
        List.takeWhile_cons_of_neg (by decide), List.append_nil]
    unfold gap
    rw [hrun]
    dsimp only
    rw [List.append_assoc, List.drop_left, List.cons_append]
    show front.length + 1 + ((behind ++ quote :: after).takeWhile Text.isBlank).length = _
    rw [hstop behind hbehind, List.length_append, List.length_cons]
    omega

/-- A reference is the word, a gap and a literal that is not empty. -/
theorem call?_eq_some_iff {before? : Option Char} {text name : Text} {skipped : Nat} :
    call? before? text = some (skipped, name) ↔
      before?.any Text.isWordPart = false ∧ ∃ between quote after, IsGap between ∧
        isQuote quote = true ∧ quote ∉ name ∧ name ≠ [] ∧
        text = word ++ between ++ quote :: (name ++ quote :: after) ∧
        skipped = word.length + between.length + 1 := by
  constructor
  · intro hcall
    unfold call? at hcall
    split at hcall
    case isFalse => cases hcall
    rename_i hword
    simp only [Bool.and_eq_true, Bool.not_eq_true', List.isPrefixOf_iff_prefix] at hword
    obtain ⟨hbefore, behind, rfl⟩ := hword
    dsimp only at hcall
    rw [List.drop_left] at hcall
    split at hcall
    case h_2 => cases hcall
    rename_i content after hliteral
    split at hcall
    · cases hcall
    · rename_i hname
      obtain ⟨rfl, rfl⟩ := Prod.mk.inj (Option.some.inj hcall)
      obtain ⟨quote, hquote, hcontent, hsplit⟩ := literal?_eq_some_iff.mp hliteral
      refine ⟨hbefore, behind.take (gap behind), quote, after, isGap_take behind, hquote,
        hcontent, by simpa using hname, ?_, ?_⟩
      · rw [← hsplit, List.append_assoc, List.take_append_drop]
      · have hlength := congrArg List.length hsplit
        simp only [List.length_drop, List.length_cons] at hlength
        rw [List.length_take, Nat.min_eq_left (by omega)]
  · rintro ⟨hbefore, between, quote, after, hgap, hquote, hname, hne, rfl, rfl⟩
    have hskip := gap_append hgap hquote (name ++ quote :: after)
    have hliteral : literal? (quote :: (name ++ quote :: after)) = some (name, after) :=
      literal?_eq_some_iff.mpr ⟨quote, hquote, hname, rfl⟩
    unfold call?
    rw [List.append_assoc, if_pos (by simp [hbefore])]
    dsimp only
    rw [List.drop_left, hskip, List.drop_left, hliteral]
    simp [hne]

section Calls

variable {before? : Option Char} {text name : Text} {skipped : Nat}

/-- A reference at the front of the code is one whatever follows the code. -/
theorem call?_append (hcall : call? before? text = some (skipped, name)) (behind : Text) :
    call? before? (text ++ behind) = some (skipped, name) := by
  obtain ⟨hbefore, between, quote, after, hgap, hquote, hname, hne, rfl, rfl⟩ :=
    call?_eq_some_iff.mp hcall
  exact call?_eq_some_iff.mpr
    ⟨hbefore, between, quote, after ++ behind, hgap, hquote, hname, hne, by simp, rfl⟩

/-- A reference that closes in the code is one without what follows the code. -/
theorem call?_of_append (hcall : call? before? (text ++ behind) = some (skipped, name))
    (hinside : skipped + name.length < text.length) :
    call? before? text = some (skipped, name) := by
  obtain ⟨hbefore, between, quote, after, hgap, hquote, hname, hne, hsplit, rfl⟩ :=
    call?_eq_some_iff.mp hcall
  have hpre : word ++ between ++ quote :: (name ++ [quote]) <+: text ++ behind :=
    ⟨after, by simp [hsplit]⟩
  obtain ⟨rest, hrest⟩ := List.prefix_of_prefix_length_le hpre (List.prefix_append text behind)
    (by simp only [List.length_append, List.length_cons, List.length_nil]; omega)
  exact call?_eq_some_iff.mpr
    ⟨hbefore, between, quote, rest, hgap, hquote, hname, hne, by simp [← hrest], rfl⟩

/-- The opening quote of a reference that begins in the code stands in the code. -/
theorem skipped_le (hbehind : Apart behind)
    (hcall : call? before? (text ++ behind) = some (skipped, name)) : skipped ≤ text.length := by
  obtain ⟨-, between, quote, after, ⟨front, rest, hblanks, hgap⟩, hquote, -, -, hsplit, rfl⟩ :=
    call?_eq_some_iff.mp hcall
  have hopened : word ++ between ++ [quote] <+: text ++ behind :=
    ⟨name ++ quote :: after, by simp [hsplit]⟩
  have hinside : word ++ between ++ [quote] <+: text := by
    rcases hbehind with ⟨tail, rfl⟩ | hbehind
    · refine Text.prefix_of_head_not_mem hopened fun hmem => ?_
      have hdash : '-' ∉ front ++ rest := fun hmem => absurd (hblanks _ hmem) (by decide)
      have hbetween : '-' ∉ between := by
        rcases hgap with rfl | rfl
        · exact hdash
        · simpa using hdash
      have hother : '-' ≠ quote := by
        rintro rfl
        exact absurd hquote (by decide)
      simp only [List.mem_append, List.mem_singleton, hbetween, hother, or_false] at hmem
      exact absurd hmem (by decide)
    · exact Text.prefix_of_last_not_mem hopened (quote_not_mem hbehind hquote)
  have hlength := hinside.length_le
  simpa only [List.length_append, List.length_singleton] using hlength

end Calls

/-- If each name that begins in the code or directly behind it closes in the code, the references
are those of the code and those of what follows it. -/
theorem callsFrom_append (hbehind : Apart behind) {before? : Option Char} {offset : Nat}
    {code : Text}
    (hinside : ∀ call ∈ callsFrom before? offset (code ++ behind),
      call.1 ≤ offset + code.length → call.1 + call.2.length < offset + code.length) :
    ∃ last?, callsFrom before? offset (code ++ behind) =
      callsFrom before? offset code ++ callsFrom last? (offset + code.length) behind := by
  fun_induction callsFrom before? offset code with
  | case1 before? offset => exact ⟨before?, rfl⟩
  | case2 before? offset c rest skipped name hcall ih =>
    have hlength := (call?_spec hcall).2.lt_length
    rw [List.length_cons] at hlength
    have hlonger := call?_append hcall behind
    rw [List.cons_append] at hlonger hinside ⊢
    rw [callsFrom, hlonger] at hinside ⊢
    dsimp only at hinside ⊢
    rw [List.drop_append_of_le_length (by omega)] at hinside ⊢
    have hend : offset + (skipped + name.length + 1) + (rest.drop (skipped + name.length)).length =
        offset + (c :: rest).length := by
      rw [List.length_drop, List.length_cons]
      omega
    rw [hend] at ih
    obtain ⟨last?, hrest⟩ := ih (List.forall_mem_cons.mp hinside).2
    exact ⟨last?, by rw [hrest, List.cons_append]⟩
  | case3 before? offset c rest hcall ih =>
    have hnone : call? before? (c :: rest ++ behind) = none := by
      rw [Option.eq_none_iff_forall_ne_some]
      rintro ⟨skipped, name⟩ hfound
      have hskipped := skipped_le hbehind hfound
      rw [List.cons_append] at hfound hinside
      rw [callsFrom, hfound] at hinside
      have hclosed : offset + skipped + name.length < offset + (c :: rest).length :=
        (List.forall_mem_cons.mp hinside).1 (Nat.add_le_add_left hskipped offset)
      rw [call?_of_append hfound (by omega)] at hcall
      cases hcall
    rw [List.cons_append] at hnone hinside ⊢
    rw [callsFrom, hnone] at hinside ⊢
    have hend : offset + 1 + rest.length = offset + (c :: rest).length := by
      rw [List.length_cons]
      omega
    rw [hend] at ih
    exact ih hinside

/-- Blanks behind the code add no reference. -/
theorem callsFrom_append_blanks {blanks : Text} (hblanks : ∀ c ∈ blanks, Text.isBlank c = true)
    (before? : Option Char) (offset : Nat) (code : Text) :
    callsFrom before? offset (code ++ blanks) = callsFrom before? offset code := by
  have hnone : ∀ last? start, callsFrom last? start blanks = [] := by
    intro last? start
    refine List.eq_nil_iff_forall_not_mem.mpr fun ⟨found, name⟩ hmem => ?_
    obtain ⟨-, place, -, front, quote, behind, hquote, hsplit, -⟩ := callsFrom_spec hmem
    exact quote_not_mem hblanks hquote (by simp [hsplit])
  have hinside : ∀ call ∈ callsFrom before? offset (code ++ blanks),
      call.1 ≤ offset + code.length → call.1 + call.2.length < offset + code.length := by
    rintro ⟨found, name⟩ hmem -
    obtain ⟨-, place, rfl, front, quote, behind, hquote, hsplit, rfl⟩ := callsFrom_spec hmem
    have hpre : front ++ quote :: name ++ [quote] <+: code ++ blanks :=
      ⟨behind, by simp [hsplit]⟩
    have hclosed := (Text.prefix_of_last_not_mem hpre (quote_not_mem hblanks hquote)).length_le
    simp only [List.length_append, List.length_cons, List.length_nil] at hclosed ⊢
    omega
  obtain ⟨last?, heq⟩ := callsFrom_append (Or.inr hblanks) hinside
  rw [heq, hnone, List.append_nil]

/-- The word of a reference stands in front of its name. -/
theorem exists_word_of_mem_callsFrom {before? : Option Char} {offset found : Nat}
    {text name : Text} (hmem : (found, name) ∈ callsFrom before? offset text) :
    ∃ front behind, text = front ++ word ++ behind ∧
      offset + front.length + word.length < found := by
  obtain ⟨front, rest, last?, skipped, rfl, hcall, rfl⟩ := exists_call_of_mem_callsFrom hmem
  obtain ⟨-, between, quote, after, -, -, -, -, rfl, rfl⟩ := call?_eq_some_iff.mp hcall
  exact ⟨front, between ++ quote :: (name ++ quote :: after), by simp, by omega⟩

end Require

/-! ## Function headers -/

namespace Signature

variable {text : Text} {header : Header}

/-- A header is a name up to an opening parenthesis and a list up to the next closing one. -/
theorem header?_eq_some_iff :
    header? text = some header ↔
      ∃ name parameters after, Text.trimStart text = name ++ parameters ++ ')' :: after ∧
        '(' ∉ name ∧ ')' ∉ parameters ∧ parameters.head? = some '(' ∧
        header = ⟨name ++ parameters ++ [')'], Text.trim name, parameters ++ [')']⟩ := by
  constructor
  · intro hheader
    unfold header? at hheader
    dsimp only at hheader
    split at hheader
    case h_2 => cases hheader
    rename_i close after hclose
    -- The list begins with the parenthesis that ends the name.
    have hlist : (Text.trimStart text).drop
        ((Text.trimStart text).takeWhile fun c => decide (c ≠ '(')).length ≠ [] := by
      intro hnil
      rw [hnil] at hclose
      cases hclose
    obtain ⟨first, tail, hfirst⟩ := List.exists_cons_of_ne_nil hlist
    have hopened := Require.eq_append_of_drop_takeWhile hfirst
    have hopens : '(' ∉ (Text.trimStart text).takeWhile fun c => decide (c ≠ '(') :=
      fun hmem => by simpa using List.mem_takeWhile_imp hmem
    generalize (Text.trimStart text).takeWhile (fun c => decide (c ≠ '(')) = name at *
    rw [hopened, List.drop_left] at hclose hheader
    have hclosed := Require.eq_append_of_drop_takeWhile hclose
    have hcloses : ')' ∉ ('(' :: tail).takeWhile fun c => decide (c ≠ ')') :=
      fun hmem => by simpa using List.mem_takeWhile_imp hmem
    have hhead : (('(' :: tail).takeWhile fun c => decide (c ≠ ')')).head? = some '(' := rfl
    generalize ('(' :: tail).takeWhile (fun c => decide (c ≠ ')')) = parameters at *
    rw [hclosed, List.drop_left] at hclose
    obtain ⟨rfl, -⟩ := List.cons.inj hclose
    exact ⟨name, parameters, after, by rw [hopened, hclosed, List.append_assoc], hopens, hcloses,
      hhead, (Option.some.inj hheader).symm⟩
  · rintro ⟨name, parameters, after, hsplit, hname, hparameters, hhead, rfl⟩
    obtain ⟨tail, rfl⟩ := List.head?_eq_some_iff.mp hhead
    have hfirst : (Text.trimStart text).takeWhile (fun c => decide (c ≠ '(')) = name := by
      rw [hsplit, List.append_assoc, List.cons_append, Require.takeWhile_quote hname]
    have hsecond : ('(' :: tail ++ ')' :: after).takeWhile (fun c => decide (c ≠ ')')) =
        '(' :: tail := Require.takeWhile_quote hparameters after
    unfold header?
    dsimp only
    rw [hfirst, hsplit, List.append_assoc, List.drop_left, hsecond, List.drop_left]

/-- A header in the code is one whatever follows the code. -/
theorem header?_append (hheader : header? text = some header) (behind : Text) :
    header? (text ++ behind) = some header := by
  obtain ⟨name, parameters, after, hsplit, hname, hparameters, hhead, rfl⟩ :=
    header?_eq_some_iff.mp hheader
  refine header?_eq_some_iff.mpr
    ⟨name, parameters, after ++ behind, ?_, hname, hparameters, hhead, rfl⟩
  rw [Text.trimStart_append, if_neg (by simp [hsplit]), hsplit]
  simp

/-- A header with blanks behind it ends in front of them. -/
theorem header?_of_blanks {blanks : Text} (hblanks : ∀ c ∈ blanks, Text.isBlank c = true)
    (hheader : header? (text ++ blanks) = some header) : header? text = some header := by
  obtain ⟨name, parameters, after, hsplit, hname, hparameters, hhead, rfl⟩ :=
    header?_eq_some_iff.mp hheader
  have hclose : ')' ∉ blanks := fun hmem => absurd (hblanks _ hmem) (by decide)
  rw [Text.trimStart_append] at hsplit
  split at hsplit
  · rw [Text.trimStart, List.dropWhile_eq_nil_iff.mpr hblanks] at hsplit
    simp at hsplit
  · have hpre : name ++ parameters ++ [')'] <+: Text.trimStart text ++ blanks :=
      ⟨after, by simp [hsplit]⟩
    obtain ⟨rest, hrest⟩ := Text.prefix_of_last_not_mem hpre hclose
    exact header?_eq_some_iff.mpr
      ⟨name, parameters, rest, by simp [← hrest], hname, hparameters, hhead, rfl⟩

end Signature

end LuaAssist

import LuaAssist.Proofs.Token.JoinedLines
import LuaAssist.Proofs.Token.Partition
import LuaAssist.Proofs.Token.Prefix
import LuaAssist.Indent.Keywords

/-!
# Words of a line

The names and keywords of a line, without what stands in its strings and comments, and the
state behind it. A front of a line has no other words than fronts of the line's words, and the
words of a line are put together from those of its pieces, if no piece swallows what follows.
-/

namespace LuaAssist.Lexer

/-- The texts of a line's names and keywords. -/
def words (line : Text) : List Text :=
  ((tokensFrom .start .code line).tokens.map Token.text).filter fun word =>
    word.head?.any isNameStart

/-- What is open behind a line of code. -/
def stateBehind (line : Text) : LineState := (tokensFrom .start .code line).state

/-- How many characters belong to a token behind its first. -/
def moreOf (c : Char) (rest : Text) : Nat := (read .start c rest).more

variable {c : Char} {rest front line : Text}

/-- The texts of tokens do not depend on what is remembered. -/
theorem texts_memory (memory other : Memory) (state : LineState) (text : Text) :
    (tokensFrom memory state text).tokens.map Token.text =
      (tokensFrom other state text).tokens.map Token.text := by
  have hsame := congrArg (List.map Token.text) (tokensFrom_memory memory other state text).2
  have htext : Token.text ∘ Token.unrefined = Token.text := rfl
  simpa only [List.map_map, htext] using hsame

/-- An empty line has no words. -/
@[simp] theorem words_nil : words [] = [] := by
  simp [words, tokensFrom]

/-- It leaves nothing open. -/
theorem stateBehind_nil : stateBehind [] = .code := by rw [stateBehind, tokensFrom]

/-- The first token of a line, and the words behind it. -/
theorem words_cons (c : Char) (rest : Text) :
    words (c :: rest) =
      (if isNameStart c then [c :: rest.take (moreOf c rest)] else []) ++
        words (rest.drop (moreOf c rest)) := by
  have hstate : ∀ (memory : Memory) (state : LineState) (text : Text),
      ((tokensFrom memory state text).tokens.map Token.text).filter
        (fun word => word.head?.any isNameStart) = words text := by
    intro memory state text
    rw [texts_memory memory .start, words]
    cases text <;> simp [tokensFrom]
  conv => lhs; rw [words, tokensFrom]
  rw [List.map_cons, List.filter_cons, hstate]
  cases hc : isNameStart c <;> simp [moreOf, hc]

/-- A name is a word. -/
theorem words_name (hc : isNameStart c = true) (rest : Text) :
    words (c :: rest) = (c :: rest.takeWhile isNamePart) ::
      words (rest.drop (rest.takeWhile isNamePart).length) := by
  have hmore : moreOf c rest = (rest.takeWhile isNamePart).length := by
    rw [moreOf, read_of_isNameStart _ hc]
    rfl
  rw [words_cons, if_pos hc, hmore, List.singleton_append,
    ← List.prefix_iff_eq_take.mp (List.takeWhile_prefix isNamePart)]

/-- Any other token is no word. -/
theorem words_other (hc : isNameStart c = false) (rest : Text) :
    words (c :: rest) = words (rest.drop (moreOf c rest)) := by
  rw [words_cons, if_neg (by simp [hc]), List.nil_append]

/-- Behind the last token stands what it leaves open. -/
theorem stateBehind_last (h : rest.length ≤ moreOf c rest) :
    stateBehind (c :: rest) = (read .start c rest).state := by
  rw [moreOf] at h
  rw [stateBehind, tokensFrom]
  simp only [List.drop_eq_nil_of_le h]
  rw [tokensFrom]

/-- Behind any other token it is told by the rest. -/
theorem stateBehind_more (h : moreOf c rest < rest.length) :
    stateBehind (c :: rest) = stateBehind (rest.drop (moreOf c rest)) := by
  obtain ⟨first, behind, hbehind⟩ := List.exists_cons_of_ne_nil
    (fun hnil => Nat.not_le_of_lt h (List.drop_eq_nil_iff.mp hnil))
  rw [stateBehind, tokensFrom]
  simp only
  rw [(tokensFrom_memory _ .start _ _).1, ← moreOf, hbehind, stateBehind]
  simp only [tokensFrom]

/-- A token that begins no name and leaves nothing open says nothing. -/
theorem skip_closed {kind : TokenKind} {more : Nat} (hc : isNameStart c = false)
    (hread : read .start c rest = .closed kind more) :
    words (c :: rest) = words (rest.drop more) ∧
      stateBehind (c :: rest) = stateBehind (rest.drop more) := by
  have hmore : moreOf c rest = more := by
    rw [moreOf, hread]
    rfl
  refine ⟨by rw [words_other hc, hmore], ?_⟩
  by_cases hlast : rest.length ≤ more
  · rw [stateBehind_last (hmore ▸ hlast), hread, List.drop_eq_nil_of_le hlast,
      stateBehind_nil]
    rfl
  · rw [stateBehind_more (hmore ▸ Nat.lt_of_not_le hlast), hmore]

/-! ## Blanks -/

/-- No name begins with a space. -/
theorem isNameStart_of_isSpace (hc : isSpace c = true) : isNameStart c = false := by
  simp only [isSpace, Bool.or_eq_true, decide_eq_true_eq] at hc
  rcases hc with (((rfl | rfl) | rfl) | rfl) | rfl <;> decide

/-- Spaces are read up to the next other character. -/
theorem read_of_isSpace (memory : Memory) (hc : isSpace c = true) (rest : Text) :
    read memory c rest = .closed .whitespace (rest.takeWhile isSpace).length := by
  rw [read, if_pos hc]

/-- What stands behind a run of characters. -/
theorem drop_length_takeWhile (test : Char → Bool) (text : Text) :
    text.drop (text.takeWhile test).length = text.dropWhile test := by
  have hwhole : text.takeWhile test ++ text.dropWhile test = text :=
    List.takeWhile_append_dropWhile
  calc text.drop (text.takeWhile test).length
      = (text.takeWhile test ++ text.dropWhile test).drop (text.takeWhile test).length := by
        rw [hwhole]
    _ = text.dropWhile test := List.drop_left

/-- A blank and the blanks behind it say nothing. -/
theorem skip_blanks (hc : isSpace c = true) (rest : Text) :
    words (c :: rest) = words (rest.dropWhile isSpace) ∧
      stateBehind (c :: rest) = stateBehind (rest.dropWhile isSpace) := by
  have hskip := skip_closed (isNameStart_of_isSpace hc) (read_of_isSpace .start hc rest)
  rwa [drop_length_takeWhile] at hskip

/-- A blank in front of a line says nothing. -/
theorem skip_blank (hc : isSpace c = true) (rest : Text) :
    words (c :: rest) = words rest ∧ stateBehind (c :: rest) = stateBehind rest := by
  obtain ⟨hwords, hstate⟩ := skip_blanks hc rest
  cases rest with
  | nil => exact ⟨hwords, hstate⟩
  | cons d rest =>
    by_cases hd : isSpace d = true
    · obtain ⟨hbehind, hopen⟩ := skip_blanks hd rest
      rw [hwords, hstate, List.dropWhile_cons_of_pos hd]
      exact ⟨hbehind.symm, hopen.symm⟩
    · rw [List.dropWhile_cons_of_neg hd] at hwords hstate
      exact ⟨hwords, hstate⟩

/-- Blanks in front of a line say nothing. -/
theorem skip_indentation {blanks : Text} (hblanks : ∀ c ∈ blanks, isSpace c = true) (rest : Text) :
    words (blanks ++ rest) = words rest ∧ stateBehind (blanks ++ rest) = stateBehind rest := by
  induction blanks with
  | nil => exact ⟨rfl, rfl⟩
  | cons c blanks ih =>
    rw [List.forall_mem_cons] at hblanks
    obtain ⟨hwords, hstate⟩ := skip_blank hblanks.1 (blanks ++ rest)
    obtain ⟨hbehind, hopen⟩ := ih hblanks.2
    exact ⟨hwords.trans hbehind, hstate.trans hopen⟩

/-! ## Fronts of a line -/

/-- A word has a character of the line in it that starts a name. -/
theorem exists_isNameStart_of_mem_words {word : Text} (hword : word ∈ words line) :
    ∃ d ∈ line, isNameStart d = true := by
  obtain ⟨hmem, hstart⟩ := List.mem_filter.mp hword
  cases word with
  | nil => cases hstart
  | cons d tail =>
    refine ⟨d, ?_, hstart⟩
    rw [← flatten_tokensFrom .start .code line]
    exact List.mem_flatten_of_mem hmem (List.mem_cons_self ..)

/-- Without such a character there are no words. -/
theorem words_of_forall (hline : ∀ d ∈ line, isNameStart d = false) : words line = [] := by
  rw [List.eq_nil_iff_forall_not_mem]
  intro word hword
  obtain ⟨d, hd, hstart⟩ := exists_isNameStart_of_mem_words hword
  rw [hline d hd] at hstart
  cases hstart

/-- No name begins with a fragment. -/
theorem isNameStart_of_isFragment (hc : isFragment c = true) : isNameStart c = false := by
  simp only [isFragment, Bool.and_eq_true, Bool.not_eq_true'] at hc
  exact hc.1.1

/-- A token that is cut off leaves no words. -/
theorem words_of_cutOff {cut whole : Reading} (hc : isNameStart c = false)
    (hcut : CutOff front cut whole) (hmore : cut.more = moreOf c front)
    (hbeyond : front.length < whole.more) : words (c :: front) = [] := by
  cases hcut with
  | same hinside => omega
  | covers _ hall => rw [words_other hc, ← hmore, hall, List.drop_length, words_nil]
  | fragment _ hall =>
    exact words_of_forall (List.forall_mem_cons.mpr
      ⟨hc, fun d hd => isNameStart_of_isFragment (hall d hd)⟩)

/-- Every word of a front of a line is a front of a word of the line. -/
theorem exists_word_of_front (hpre : front <+: line) :
    ∀ word ∈ words front, ∃ longer ∈ words line, word <+: longer := by
  -- One token takes many characters, so the induction is on the length of the front.
  induction hlength : front.length using Nat.strongRecOn generalizing front line with
  | ind length ih =>
    subst hlength
    cases front with
    | nil => simp
    | cons c front =>
      obtain ⟨line, rfl⟩ : ∃ tail, line = c :: tail := by
        obtain ⟨behind, rfl⟩ := hpre
        exact ⟨_, rfl⟩
      have hfront := (List.cons_prefix_cons.mp hpre).2
      have hdrop : ∀ more : Nat, ∀ word ∈ words (front.drop more),
          ∃ longer ∈ words (line.drop more), word <+: longer := fun more =>
        ih _ (by simp only [List.length_drop, List.length_cons]; omega) (hfront.drop more) rfl
      cases hc : isNameStart c with
      | true =>
        rw [words_name hc, words_name hc]
        rcases takeWhile_of_front isNamePart hfront with ⟨-, heq⟩ | ⟨hlt, heq⟩
        · rw [heq, List.forall_mem_cons]
          refine ⟨⟨_, List.mem_cons_self .., List.prefix_rfl⟩, fun word hword => ?_⟩
          obtain ⟨longer, hlonger, hword⟩ := hdrop _ word hword
          exact ⟨longer, List.mem_cons_of_mem _ hlonger, hword⟩
        · rw [heq, List.drop_length, words_nil, List.forall_mem_cons]
          refine ⟨⟨_, List.mem_cons_self .., ?_⟩, nofun⟩
          exact List.cons_prefix_cons.mpr ⟨rfl, List.prefix_of_prefix_length_le hfront
            (List.takeWhile_prefix _) (Nat.le_of_lt hlt)⟩
      | false =>
        have hcut := read_cutOff .start hc hfront
        by_cases hinside : moreOf c line ≤ front.length
        · have hmore : moreOf c front = moreOf c line := by
            cases hcut with
            | same _ hmore => exact hmore
            | covers hbeyond => exact absurd hinside (Nat.not_le_of_lt hbeyond)
            | fragment hbeyond => exact absurd hinside (Nat.not_le_of_lt hbeyond)
          rw [words_other hc, words_other hc, hmore]
          exact hdrop _
        · rw [words_of_cutOff hc hcut rfl (Nat.lt_of_not_le hinside)]
          nofun

/-! ## Pieces of a line -/

/-- The category of the last token of a line. -/
def lastKind? (line : Text) : Option TokenKind :=
  (tokensFrom .start .code line).tokens.dropLast.getLast?.map Token.kind

/-- A character behind a text is a token like the character alone: the text does not take it
into a comment or into a string that is not closed. -/
def Finishes (text : Text) (next : Char) : Prop := lastKind? (text ++ [next]) = lastKind? [next]

instance (text : Text) (next : Char) : Decidable (Finishes text next) :=
  inferInstanceAs (Decidable (_ = _))

/-- The last category, as far as it does not depend on what is remembered. -/
theorem lastKind_unrefined (memory other : Memory) (state before : LineState) (text : Text) :
    ((tokensFrom memory state text).tokens.dropLast.getLast?.map Token.kind).map
        TokenKind.unrefined =
      ((tokensFrom other before text).tokens.dropLast.getLast?.map Token.kind).map
        TokenKind.unrefined := by
  have hmove : ∀ tokens : List Token,
      (tokens.dropLast.getLast?.map Token.kind).map TokenKind.unrefined =
        ((tokens.map Token.unrefined).dropLast.getLast?).map Token.kind := by
    intro tokens
    rw [← List.map_dropLast, List.getLast?_map, Option.map_map, Option.map_map]
    rfl
  have hstate : ((tokensFrom other state text).tokens) = (tokensFrom other before text).tokens := by
    cases text <;> simp [tokensFrom]
  rw [hmove, (tokensFrom_memory memory other state text).2, hstate, ← hmove]

/-- A category that is not one of names. -/
theorem unrefined_eq_iff {kind plain : TokenKind}
    (hplain : plain = .whitespace ∨ plain = .operator) :
    kind.unrefined = plain ↔ kind = plain := by
  rcases hplain with rfl | rfl <;> cases kind <;> decide

/-- Every text has tokens. -/
theorem tokensFrom_ne_nil (memory : Memory) (state : LineState) (text : Text) :
    (tokensFrom memory state text).tokens ≠ [] := by
  cases text <;> simp [tokensFrom]

/-- The last token of some text is the last one also behind another token. -/
theorem getLast?_dropLast_cons (token : Token) (memory : Memory) (state : LineState) {text : Text}
    (hne : text ≠ []) :
    (token :: (tokensFrom memory state text).tokens).dropLast.getLast? =
      (tokensFrom memory state text).tokens.dropLast.getLast? := by
  obtain ⟨c, rest, rfl⟩ := List.exists_cons_of_ne_nil hne
  rw [tokensFrom]
  simp only
  rw [List.dropLast_cons_of_ne_nil (List.cons_ne_nil _ _),
    List.dropLast_cons_of_ne_nil (tokensFrom_ne_nil _ _ _), List.getLast?_cons_cons]

/-- The last token of a line is the last one behind its first token. -/
theorem lastKind?_more {kind : TokenKind} (hkind : kind = .whitespace ∨ kind = .operator)
    (h : moreOf c rest < rest.length) :
    lastKind? (c :: rest) = some kind ↔ lastKind? (rest.drop (moreOf c rest)) = some kind := by
  have hplain : ∀ last : Option TokenKind, last = some kind ↔
      last.map TokenKind.unrefined = some kind := by
    rintro (_ | last)
    · simp
    · simp [unrefined_eq_iff hkind]
  have hne : rest.drop (read .start c rest).more ≠ [] :=
    fun hnil => Nat.not_le_of_lt h (List.drop_eq_nil_iff.mp hnil)
  rw [hplain, hplain (lastKind? (rest.drop _)), lastKind?, tokensFrom, lastKind?]
  simp only
  rw [getLast?_dropLast_cons _ _ _ hne, ← moreOf, lastKind_unrefined _ .start _ .code]

/-- The last token of a line that has only one. -/
theorem lastKind?_last (h : rest.length ≤ moreOf c rest) :
    lastKind? (c :: rest) = some (read .start c rest).kind := by
  rw [moreOf] at h
  rw [lastKind?, tokensFrom]
  simp only [List.drop_eq_nil_of_le h]
  rw [tokensFrom]
  rfl

/-- A blank alone, and an opening parenthesis alone. -/
theorem lastKind?_blank : lastKind? [' '] = some .whitespace := by decide +kernel

/-- A parenthesis is an operator. -/
theorem lastKind?_paren : lastKind? ['('] = some .operator := by decide +kernel

/-- A run of name parts ends at a character that is none. -/
theorem takeWhile_isNamePart {next : Char} (hnext : isNamePart next = false) (behind : Text) :
    (rest ++ next :: behind).takeWhile isNamePart = rest.takeWhile isNamePart := by
  rw [List.takeWhile_append]
  split
  · rename_i hlength
    rw [List.takeWhile_cons_of_neg (by simp [hnext]), List.append_nil,
      (List.takeWhile_prefix isNamePart).eq_of_length hlength]
  · rfl

/-- A token that ends in front of the last character of a line ends there without it. -/
theorem moreOf_append_single {next : Char} (hnext : isNamePart next = false)
    (hinside : moreOf c (rest ++ [next]) ≤ rest.length) :
    moreOf c rest = moreOf c (rest ++ [next]) := by
  cases hc : isNameStart c with
  | true => simp only [moreOf, read_of_isNameStart .start hc, takeWhile_isNamePart hnext]
  | false =>
    have hcut := read_cutOff .start hc (List.prefix_append rest [next])
    simp only [moreOf] at hinside ⊢
    cases hcut with
    | same _ hmore => exact hmore
    | covers hbeyond => omega
    | fragment hbeyond => omega

/-- A token that ends in front of a blank or a parenthesis ends there in every text that goes on
with that character. -/
theorem moreOf_append {next : Char} (hnext : next = ' ' ∨ next = '(')
    (hinside : moreOf c (rest ++ [next]) ≤ rest.length) (behind : Text) :
    moreOf c (rest ++ next :: behind) = moreOf c (rest ++ [next]) := by
  have hstop : isNamePart next = false ∧ isFragment next = false := by
    rcases hnext with rfl | rfl <;> decide
  cases hc : isNameStart c with
  | true => simp only [moreOf, read_of_isNameStart .start hc, takeWhile_isNamePart hstop.1]
  | false =>
    have hfront : rest ++ [next] <+: rest ++ next :: behind := ⟨behind, by simp⟩
    have hcut := read_cutOff .start hc hfront
    simp only [moreOf] at hinside ⊢
    cases hcut with
    | same _ hmore => exact hmore.symm
    | covers _ hall =>
      rw [List.length_append, List.length_singleton] at hall
      omega
    | fragment _ hall =>
      rw [hall next (by simp)] at hstop
      exact absurd hstop.2 (by decide)

/-- If the last token of a finished text takes a blank or a parenthesis behind it along, it is a
run of blanks. -/
theorem isSpace_of_finishes {next : Char} (hnext : next = ' ' ∨ next = '(')
    (hfinishes : Finishes (c :: rest) next)
    (hwhole : (rest ++ [next]).length ≤ moreOf c (rest ++ [next])) :
    next = ' ' ∧ ∀ d ∈ c :: rest, isSpace d = true := by
  rw [Finishes, List.cons_append, lastKind?_last hwhole] at hfinishes
  have hform := read_formed .start c (rest ++ [next])
  rw [moreOf] at hwhole
  generalize read .start c (rest ++ [next]) = reading at hform hwhole hfinishes
  have hkind : next = ' ' ∧ reading.kind = .whitespace ∨
      next = '(' ∧ reading.kind = .operator := by
    rcases hnext with rfl | rfl
    · exact .inl ⟨rfl, Option.some.inj (hfinishes.trans lastKind?_blank)⟩
    · exact .inr ⟨rfl, Option.some.inj (hfinishes.trans lastKind?_paren)⟩
  cases hform with
  | blank hc =>
    obtain ⟨rfl, -⟩ : next = ' ' ∧ _ := hkind.resolve_right fun h => nomatch h.2
    have hall := (List.takeWhile_prefix isSpace).eq_of_length_le hwhole
    refine ⟨rfl, List.forall_mem_cons.mpr ⟨hc, fun d hd => ?_⟩⟩
    refine List.all_eq_true.mp (List.all_takeWhile (l := rest ++ [' '])) d ?_
    rw [hall]
    exact List.mem_append_left _ hd
  | enclosed hmem =>
    rcases hkind with ⟨-, hkind⟩ | ⟨-, hkind⟩ <;> rw [hkind] at hmem <;>
      exact absurd hmem (by decide)
  | name hc =>
    have hmem := nameKind_mem .start (c :: (rest ++ [next]).takeWhile isNamePart)
    rcases hkind with ⟨-, hkind⟩ | ⟨-, hkind⟩ <;>
      rw [show Memory.start.nameKind _ = _ from hkind] at hmem <;> exact absurd hmem (by decide)
  | @operator op hop =>
    obtain ⟨rfl, -⟩ : next = '(' ∧ _ := hkind.resolve_left fun h => nomatch h.2
    -- The operator is all that is left, so the parenthesis stands in it behind its first character.
    rw [operatorAt?] at hop
    have hstarts := List.find?_some hop
    have hmem := List.mem_of_find?_eq_some hop
    simp only [Reading.closed, List.length_append, List.length_singleton] at hwhole
    have hall := (List.isPrefixOf_iff_prefix.mp hstarts).eq_of_length_le (by
      simp only [List.length_cons, List.length_append, List.length_nil]
      omega)
    have hfragment := isFragment_of_operator op hmem '(' (by simp [hall])
    exact absurd hfragment (by decide)
  | single => simp [Reading.closed] at hwhole

/-- The words of a line are those of a finished text and those behind it, and what is open at
its end is decided behind that text. -/
theorem words_append {next : Char} (hnext : next = ' ' ∨ next = '(') {text : Text}
    (hfinishes : Finishes text next) (behind : Text) :
    words (text ++ next :: behind) = words text ++ words (next :: behind) ∧
      stateBehind (text ++ next :: behind) = stateBehind (next :: behind) := by
  induction hlength : text.length using Nat.strongRecOn generalizing text with
  | ind length ih =>
    subst hlength
    cases text with
    | nil => simp
    | cons c rest =>
      -- A blank alone shows where the first token ends, whatever stands behind it.
      by_cases hwhole : (rest ++ [next]).length ≤ moreOf c (rest ++ [next])
      · obtain ⟨rfl, hspaces⟩ := isSpace_of_finishes hnext hfinishes hwhole
        have hnone := (skip_indentation hspaces []).1
        rw [List.append_nil, words_nil] at hnone
        rw [hnone, List.nil_append]
        exact skip_indentation hspaces _
      · have hinside : moreOf c (rest ++ [next]) ≤ rest.length := by
          simp only [List.length_append, List.length_singleton] at hwhole
          omega
        have hmore := moreOf_append_single (by rcases hnext with rfl | rfl <;> decide) hinside
        have hmoreBehind := moreOf_append hnext hinside behind
        have hrest : Finishes (rest.drop (moreOf c rest)) next := by
          have hkind : ∃ kind, lastKind? [next] = some kind ∧
              (kind = .whitespace ∨ kind = .operator) := by
            rcases hnext with rfl | rfl
            · exact ⟨_, lastKind?_blank, .inl rfl⟩
            · exact ⟨_, lastKind?_paren, .inr rfl⟩
          obtain ⟨kind, hlast, hkind⟩ := hkind
          rw [Finishes, hlast, List.cons_append, lastKind?_more hkind (Nat.lt_of_not_le hwhole),
            List.drop_append_of_le_length hinside, ← hmore] at hfinishes
          rw [Finishes, hlast, hfinishes]
        rw [← hmore] at hinside hmoreBehind
        obtain ⟨hwords, hstate⟩ := ih _ (by simp only [List.length_drop, List.length_cons]; omega)
          hrest rfl
        rw [List.cons_append]
        constructor
        · rw [words_cons, words_cons c rest, hmoreBehind, List.take_append_of_le_length hinside,
            List.drop_append_of_le_length hinside, hwords, List.append_assoc]
        · have hlonger : moreOf c (rest ++ next :: behind) < (rest ++ next :: behind).length := by
            simp only [List.length_append, List.length_cons]
            omega
          rw [stateBehind_more hlonger, hmoreBehind, List.drop_append_of_le_length hinside, hstate]

/-- A name at the front of a line, as far as it goes, is a word. -/
theorem words_front {name : Text} (hstart : name.head?.any isNameStart = true)
    (hname : ∀ d ∈ name, isNamePart d = true) (next : Char) (hnext : isNamePart next = false)
    (rest : Text) :
    words (name ++ next :: rest) = name :: words (next :: rest) ∧
      stateBehind (name ++ next :: rest) = stateBehind (next :: rest) := by
  cases name with
  | nil => cases hstart
  | cons c name =>
    rw [List.forall_mem_cons] at hname
    have hrun : (name ++ next :: rest).takeWhile isNamePart = name := by
      rw [List.takeWhile_append_of_pos hname.2, List.takeWhile_cons_of_neg (by simp [hnext]),
        List.append_nil]
    have hmore : moreOf c (name ++ next :: rest) = name.length := by
      rw [moreOf, read_of_isNameStart _ hstart, hrun]
      rfl
    rw [List.cons_append, words_name hstart, stateBehind_more, hmore, hrun, List.drop_left]
    · exact ⟨rfl, rfl⟩
    · simp only [hmore, List.length_append, List.length_cons]
      omega

/-- An opening parenthesis says nothing. -/
theorem skip_paren (rest : Text) :
    words ('(' :: rest) = words rest ∧ stateBehind ('(' :: rest) = stateBehind rest := by
  have hop : operatorAt? ('(' :: rest) = some ['('] := rfl
  have hread : read .start '(' rest = .closed .operator 0 := by
    simp [read, isSpace, isNameStart, hop]
  exact skip_closed (by decide) hread

/-! ## A closing parenthesis behind a line -/

/-- A token that starts with `c` and leaves a long bracket open over the whole rest. -/
inductive LeftOpen (c : Char) (rest : Text) : Prop where
  | string (level : Nat) (hc : c = '[') (hopen : longOpen? rest = some level)
      (hclose : longClose? level (rest.drop (level + 1)) = none)
  | comment (level : Nat) (body : Text) (hc : c = '-') (hrest : rest = '-' :: '[' :: body)
      (hopen : longOpen? body = some level)
      (hclose : longClose? level (rest.drop (level + 3)) = none)

/-- A long token that leaves something open is not closed. -/
theorem longClose?_of_readLong {form : LongForm} {level skip : Nat}
    (hopen : (readLong form level skip rest).state ≠ .code) :
    longClose? level (rest.drop skip) = none := by
  unfold readLong at hopen
  split at hopen
  · exact absurd rfl hopen
  · assumption

/-- Only an open long bracket leaves something open. -/
theorem leftOpen_of_read {memory : Memory} (hopen : (read memory c rest).state ≠ .code) :
    LeftOpen c rest := by
  unfold read at hopen
  split at hopen
  · exact absurd rfl hopen
  split at hopen
  · rename_i hcomment
    simp only [Bool.and_eq_true, decide_eq_true_eq] at hcomment
    obtain ⟨rfl, hdash⟩ := hcomment
    obtain ⟨body, rfl⟩ := List.head?_eq_some_iff.mp hdash
    unfold readComment at hopen
    split at hopen
    · rename_i tail hbody
      obtain rfl : body = '[' :: tail := hbody
      split at hopen
      · exact .comment _ _ rfl rfl ‹_› (longClose?_of_readLong hopen)
      · exact absurd rfl hopen
    · exact absurd rfl hopen
  split at hopen
  · rename_i level hlevel
    split at hlevel
    · exact .string level ‹_› hlevel (longClose?_of_readLong hopen)
    · cases hlevel
  split at hopen
  · exact absurd rfl hopen
  split at hopen
  · split at hopen <;> exact absurd rfl hopen
  split at hopen
  · exact absurd rfl hopen
  split at hopen <;> exact absurd rfl hopen

/-- An open long bracket takes the whole rest and leaves something open. -/
theorem LeftOpen.read_whole (hopen : LeftOpen c rest) (memory : Memory) :
    (read memory c rest).more = rest.length ∧ (read memory c rest).state ≠ .code := by
  cases hopen with
  | string level hc hopen hclose =>
    subst hc
    rw [read_of_longOpen? memory hopen, readLong, hclose]
    exact ⟨rfl, (LongForm.state_ne_code (.inl rfl) level : LongForm.string.state level ≠ .code)⟩
  | comment level body hc hrest hopen hclose =>
    subst hc hrest
    rw [read_of_dashes memory rfl, readComment_of_longOpen? hopen, readLong, hclose]
    exact ⟨rfl, (LongForm.state_ne_code (.inr rfl) level : LongForm.comment.state level ≠ .code)⟩

/-- A parenthesis opens no long bracket. -/
theorem longOpen?_append_paren : longOpen? (rest ++ [')']) = longOpen? rest := by
  cases hopen : longOpen? (rest ++ [')']) with
  | none =>
    symm
    rw [Option.eq_none_iff_forall_ne_some]
    intro level hlevel
    rw [longOpen?_of_front (List.prefix_append rest _) hlevel] at hopen
    cases hopen
  | some level =>
    obtain ⟨body, hbody⟩ := longOpen?_eq_some.mp hopen
    symm
    rw [longOpen?_eq_some]
    rcases List.eq_nil_or_concat body with rfl | ⟨front, last, rfl⟩
    · have hlast := (List.append_inj' hbody rfl).2
      simp at hlast
    · refine ⟨front, ?_⟩
      have hsplit : rest ++ [')'] = (List.replicate level '=' ++ '[' :: front) ++ [last] := by
        simp [hbody]
      exact (List.append_inj' hsplit rfl).1

/-- What is open behind a parenthesis was open in front of it. -/
theorem LeftOpen.of_append_paren (hopen : LeftOpen c (rest ++ [')'])) : LeftOpen c rest := by
  have hclosed : ∀ level skip : Nat, longClose? level ((rest ++ [')']).drop skip) = none →
      longClose? level (rest.drop skip) = none := by
    intro level skip hnone
    rw [longClose?_of_front level ((List.prefix_append rest [')']).drop skip), hnone]
    rfl
  cases hopen with
  | string level hc hopen hclose =>
    exact .string level hc (longOpen?_append_paren ▸ hopen) (hclosed _ _ hclose)
  | comment level body hc hrest hopen hclose =>
    rcases List.eq_nil_or_concat body with rfl | ⟨front, last, rfl⟩
    · cases hopen
    · have hsplit : rest ++ [')'] = ('-' :: '[' :: front) ++ [last] := by simp [hrest]
      obtain ⟨hfront, hlast⟩ := List.append_inj' hsplit rfl
      obtain rfl : ')' = last := by simpa using hlast
      refine .comment level front hc hfront ?_ (hclosed _ _ hclose)
      rw [← longOpen?_append_paren]
      simpa using hopen

/-- A closing parenthesis behind a line of code adds no word and leaves nothing open. -/
theorem append_paren {text : Text} (hcode : stateBehind text = .code) :
    (∀ word ∈ words (text ++ [')']), word ∈ words text) ∧
      stateBehind (text ++ [')']) = .code := by
  induction hlength : text.length using Nat.strongRecOn generalizing text with
  | ind length ih =>
    subst hlength
    cases text with
    | nil => decide +kernel
    | cons c rest =>
      have hparen : isNamePart ')' = false := by decide
      rw [List.cons_append]
      by_cases hinside : moreOf c (rest ++ [')']) ≤ rest.length
      · have hmore := moreOf_append_single hparen hinside
        have hrest : stateBehind (rest.drop (moreOf c rest)) = .code := by
          by_cases hlast : rest.length ≤ moreOf c rest
          · rw [List.drop_eq_nil_of_le hlast, stateBehind_nil]
          · rwa [← stateBehind_more (Nat.lt_of_not_le hlast)]
        obtain ⟨hwords, hstate⟩ :=
          ih _ (by simp only [List.length_drop, List.length_cons]; omega) hrest rfl
        have hlonger : moreOf c (rest ++ [')']) < (rest ++ [')']).length := by
          simp only [List.length_append, List.length_singleton]
          omega
        rw [stateBehind_more hlonger, words_cons, words_cons c rest, ← hmore]
        rw [← hmore] at hinside
        rw [List.take_append_of_le_length hinside, List.drop_append_of_le_length hinside]
        refine ⟨fun word hword => ?_, hstate⟩
        rw [List.mem_append] at hword ⊢
        exact hword.imp_right (hwords word)
      · have hwhole : (rest ++ [')']).length ≤ moreOf c (rest ++ [')']) := by
          simp only [List.length_append, List.length_singleton]
          omega
        have hc : isNameStart c = false := by
          rw [Bool.eq_false_iff]
          intro hc
          rw [moreOf, read_of_isNameStart _ hc, takeWhile_isNamePart hparen] at hinside
          exact hinside (List.takeWhile_prefix _).length_le
        rw [words_other hc, List.drop_eq_nil_of_le hwhole, stateBehind_last hwhole]
        refine ⟨by simp, Classical.byContradiction fun hopen => ?_⟩
        -- Only an open long bracket stays open behind the parenthesis, and it was open before.
        obtain ⟨hmore, hstate⟩ := (leftOpen_of_read hopen).of_append_paren.read_whole .start
        exact hstate (stateBehind_last (Nat.le_of_eq hmore.symm) ▸ hcode)

/-! ## Keywords -/

/-- A name is a keyword if it is reserved. -/
theorem nameKind_eq_keyword_iff (memory : Memory) (word : Text) :
    memory.nameKind word = .keyword ↔ Words.isReserved word = true := by
  unfold Memory.nameKind
  split
  · exact ⟨fun _ => ‹_›, fun _ => rfl⟩
  · rename_i hword
    refine ⟨fun h => ?_, fun h => absurd h hword⟩
    split at h
    · cases h
    split at h
    · cases h
    split at h <;> cases h

/-- Only a reserved name is a keyword. -/
theorem kind_eq_keyword_iff (memory : Memory) (c : Char) (rest : Text) :
    (read memory c rest).kind = .keyword ↔ isNameStart c = true ∧
      Words.isReserved (c :: rest.take (read memory c rest).more) = true := by
  cases hc : isNameStart c with
  | true =>
    rw [read_of_isNameStart _ hc]
    simp only [Reading.closed, nameKind_eq_keyword_iff, true_and]
    rw [← List.prefix_iff_eq_take.mp (List.takeWhile_prefix isNamePart)]
  | false =>
    simp only [Bool.false_eq_true, false_and, iff_false]
    have hform := read_formed memory c rest
    generalize read memory c rest = reading at hform
    intro hkind
    cases hform with
    | enclosed hmem =>
      rw [hkind] at hmem
      exact absurd hmem (by decide)
    | name hname =>
      rw [hname] at hc
      cases hc
    | _ => cases hkind

/-- The keywords of a line of code are its reserved words. -/
theorem keywordsOf_scan (line : Text) :
    Indent.keywordsOf (scan line .code) = (words line).filter Words.isReserved := by
  have hfrom : ∀ (memory : Memory) (state : LineState),
      (((tokensFrom memory state line).tokens.filter fun token => token.kind = .keyword).map
        Token.text) = (((tokensFrom memory state line).tokens.map Token.text).filter fun word =>
          word.head?.any isNameStart).filter Words.isReserved := by
    intro memory state
    fun_induction tokensFrom memory state line with
    | case1 => rfl
    | case2 memory state c rest reading token scan ih =>
      have htoken : decide (token.kind = .keyword) =
          (token.text.head?.any isNameStart && Words.isReserved token.text) := by
        rw [Bool.eq_iff_iff, decide_eq_true_eq, Bool.and_eq_true]
        exact kind_eq_keyword_iff memory c rest
      rw [List.filter_cons, htoken, List.map_cons, List.filter_cons]
      cases hstart : token.text.head?.any isNameStart with
      | true =>
        rw [Bool.true_and, if_pos rfl, List.filter_cons, ← ih]
        split <;> rfl
      | false =>
        rw [Bool.false_and, if_neg Bool.false_ne_true, if_neg Bool.false_ne_true, ← ih]
  exact hfrom _ _

/-- A line that begins inside a long token has the keywords of what stands behind the token, and
none if the token goes on behind the line. -/
theorem continueLong_says {form : LongForm} (hform : form = .string ∨ form = .comment)
    (level : Nat) (line : Text) :
    Indent.keywordsOf (continueLong form level line) = (match longClose? level line with
      | some length => Indent.keywordsOf (scan (line.drop length) .code)
      | none => []) ∧
    (continueLong form level line).state = match longClose? level line with
      | some length => stateBehind (line.drop length)
      | none => form.state level := by
  have hquiet : form.kind ≠ .keyword := by rcases hform with rfl | rfl <;> nofun
  have hmemory : ∀ taken : Text, Memory.start.after ⟨form.kind, taken⟩ = .start := by
    intro taken
    rcases hform with rfl | rfl <;> rfl
  rw [continueLong]
  cases longClose? level line with
  | some length =>
    dsimp only
    rw [hmemory, Indent.keywordsOf, List.filter_cons_of_neg (by simpa using hquiet)]
    exact ⟨rfl, rfl⟩
  | none =>
    dsimp only
    unfold withFront
    split <;> simp [Indent.keywordsOf, hquiet]

end LuaAssist.Lexer

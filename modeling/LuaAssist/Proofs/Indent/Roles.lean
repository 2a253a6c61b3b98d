import LuaAssist.Proofs.Document.Joined
import LuaAssist.Proofs.Indent.Layout
import LuaAssist.Proofs.Token.Words

/-!
# What a line does to the levels

Each line of a program keeps the level, opens one, closes one, or closes one and opens another.
Which of these it does follows from its block keywords, and these are told by the pieces that
the line is made of.
-/

namespace LuaAssist.Indent

open Lexer (words stateBehind)

/-- The keywords of a line of code. -/
def ownKeywords (line : Text) : List Text := keywordsOf (Lexer.scan line .code)

/-- A keyword that opens or closes a level. -/
def isMark (keyword : Text) : Bool := opens keyword || closes keyword

/-- The words of a line that open or close levels. -/
def marks (line : Text) : List Text := (words line).filter isMark

/-- What a line does to the levels. -/
inductive Role where
  | plain
  | opening
  | closing
  /-- Closes a level and opens another. -/
  | between
  deriving DecidableEq, Repr

/-- The levels by which the next line is deeper. -/
def Role.levels : Role → Nat
  | .plain | .closing => 0
  | .opening | .between => 1

/-- The line stands under the line that began its block. -/
def Role.aligns : Role → Bool
  | .plain | .opening => false
  | .closing | .between => true

/-- Reading the line backwards, how many blocks are to be begun in front of it, and whether the
one that is looked for has begun on it. -/
def Role.unclosed (depth : Int) : Role → Int × Bool
  | .plain => (depth, false)
  | .opening => (depth - 1, depth - 1 < 0)
  | .closing => (depth + 1, false)
  | .between => (depth, depth - 1 < 0)

/-! ## Marks decide -/

/-- Keywords that open or close are reserved words. -/
theorem reserved_of_isMark {keyword : Text} (hmark : isMark keyword = true) :
    Words.isReserved keyword = true := by
  have hall : ∀ known ∈ opening ++ closing, Words.isReserved known = true := by decide +kernel
  simp only [isMark, opens, closes, Bool.or_eq_true, List.contains_iff_mem] at hmark
  exact hall _ (List.mem_append.mpr hmark)

/-- The marks are among the keywords. -/
theorem filter_ownKeywords (line : Text) : (ownKeywords line).filter isMark = marks line := by
  rw [ownKeywords, Lexer.keywordsOf_scan, List.filter_filter, marks]
  refine List.filter_congr fun word _ => ?_
  cases hmark : isMark word with
  | true => rw [reserved_of_isMark hmark]; rfl
  | false => rfl

/-- A pass over keywords whose states other keywords leave as they are only sees the marks. -/
theorem foldl_marks {α : Type} (step : α → Text → α) (valid : α → Prop)
    (hkeeps : ∀ state keyword, valid state → valid (step state keyword))
    (hstep : ∀ state keyword, valid state → isMark keyword = false → step state keyword = state)
    {start : α} (hstart : valid start) (keywords : List Text) :
    keywords.foldl step start = (keywords.filter isMark).foldl step start := by
  induction keywords generalizing start with
  | nil => rfl
  | cons keyword keywords ih =>
    cases hmark : isMark keyword with
    | true =>
      rw [List.filter_cons_of_pos hmark, List.foldl_cons, List.foldl_cons, ih (hkeeps _ _ hstart)]
    | false =>
      rw [List.filter_cons_of_neg (by simp [hmark]), List.foldl_cons, hstep _ _ hstart hmark,
        ih hstart]

/-- All other words neither open nor close. -/
theorem not_mark {keyword : Text} (hmark : isMark keyword = false) :
    opens keyword = false ∧ closes keyword = false := by
  simpa [isMark] using hmark

/-- The levels that a line opens are told by its marks. -/
theorem delta_marks (line : Text) : delta (ownKeywords line) = delta (marks line) := by
  have hdepths : depths (ownKeywords line) = depths (marks line) := by
    rw [← filter_ownKeywords, depths, depths]
    -- The lowest depth is never above the depth, so a keyword without a level cannot lower it.
    refine foldl_marks _ (fun state => state.2 ≤ state.1) ?_ ?_ (Int.le_refl 0) _
    · rintro ⟨depth, lowest⟩ keyword hle
      simp only at hle ⊢
      split <;> split <;> omega
    · rintro ⟨depth, lowest⟩ keyword hle hmark
      obtain ⟨hopens, hcloses⟩ := not_mark hmark
      simpa [hopens, hcloses] using Int.min_eq_left hle
  rw [delta, delta, hdepths]

/-- What reading a line backwards finds is told by its marks. -/
theorem unclosed_marks (depth : Int) (line : Text) :
    Indent.unclosed depth (ownKeywords line) = Indent.unclosed depth (marks line) := by
  rw [← filter_ownKeywords, Indent.unclosed, Indent.unclosed, ← List.filter_reverse]
  refine foldl_marks _ (fun _ => True) (fun _ _ _ => trivial) ?_ trivial _
  rintro ⟨depth, begun⟩ keyword - hmark
  obtain ⟨hopens, hcloses⟩ := not_mark hmark
  simp [hopens, hcloses]

/-- The marks by which a line has its role. -/
inductive Marked : Role → List Text → Prop where
  | plain : Marked .plain []
  | opening {keyword : Text} (hopens : opens keyword = true) (hcloses : closes keyword = false) :
    Marked .opening [keyword]
  | closing {keyword : Text} (hopens : opens keyword = false) (hcloses : closes keyword = true) :
    Marked .closing [keyword]
  | both {keyword : Text} (hopens : opens keyword = true) (hcloses : closes keyword = true) :
    Marked .between [keyword]
  | two {first second : Text} (hfirst : opens first = false ∧ closes first = true)
      (hsecond : opens second = true ∧ closes second = false) :
    Marked .between [first, second]

/-- The marks of a role open its levels. -/
theorem Marked.delta_eq {role : Role} {keywords : List Text} (hmarked : Marked role keywords) :
    delta keywords = role.levels := by
  cases hmarked with
  | plain => rfl
  | opening hopens hcloses | closing hopens hcloses | both hopens hcloses =>
    simp only [delta, depths, List.foldl_cons, List.foldl_nil, hopens, hcloses]
    rfl
  | two hfirst hsecond =>
    simp only [delta, depths, List.foldl_cons, List.foldl_nil, hfirst, hsecond]
    rfl

/-- Read backwards, the marks of a role do what it says. -/
theorem Marked.unclosed_eq {role : Role} {keywords : List Text} (hmarked : Marked role keywords)
    (depth : Int) : Indent.unclosed depth keywords = role.unclosed depth := by
  cases hmarked with
  | plain => rfl
  | opening hopens hcloses => simp [Indent.unclosed, hopens, hcloses, Role.unclosed]
  | closing hopens hcloses => simp [Indent.unclosed, hopens, hcloses, Role.unclosed]
  | both hopens hcloses => simp [Indent.unclosed, hopens, hcloses, Role.unclosed]
  | two hfirst hsecond => simp [Indent.unclosed, hfirst, hsecond, Role.unclosed]

/-! ## Lines in their roles -/

/-- A line that may stand in a program and does to the levels what its role says. -/
structure Plays (role : Role) (line : Text) : Prop where
  unbroken : Document.Unbroken line
  closed : stateBehind line = .code
  begins : line.head?.any (fun c => !Text.isBlank c) = true
  notComment : ¬ "--".toList <+: line
  levels : delta (ownKeywords line) = role.levels
  unclosed : ∀ depth, Indent.unclosed depth (ownKeywords line) = role.unclosed depth
  /-- Unless it is to stand under another line, no keyword in any front of it closes a level. -/
  quiet : role.aligns = false → ∀ front, front <+: line →
    ∀ keyword ∈ ownKeywords front, closes keyword = false
  /-- If it is, it begins with a closing keyword. -/
  stem : role.aligns = true → ∃ stem ∈ closingStems, stem <+: line

/-- A word that begins like a closing keyword and is one. -/
theorem stem_of_closes {keyword : Text} (hcloses : closes keyword = true) :
    ∃ stem ∈ closingStems, stem <+: keyword := by
  have hall : ∀ known ∈ closing, ∃ stem ∈ closingStems, stem <+: known := by decide +kernel
  exact hall keyword (List.contains_iff_mem.mp hcloses)

/-- Where no word begins like a closing keyword, no front of the line has one. -/
theorem quiet_of_words {line : Text}
    (hwords : ∀ word ∈ words line, ∀ stem ∈ closingStems, ¬ stem <+: word) :
    ∀ front, front <+: line → ∀ keyword ∈ ownKeywords front, closes keyword = false := by
  intro front hfront keyword hkeyword
  rw [ownKeywords, Lexer.keywordsOf_scan] at hkeyword
  obtain ⟨longer, hlonger, hpre⟩ :=
    Lexer.exists_word_of_front hfront keyword (List.mem_filter.mp hkeyword).1
  rw [Bool.eq_false_iff]
  intro hcloses
  obtain ⟨stem, hstem, hbegins⟩ := stem_of_closes hcloses
  exact hwords longer hlonger stem hstem (hbegins.trans hpre)

/-- A line plays its role if it has the marks. -/
theorem plays_of_marks {role : Role} {line : Text} (hmarked : Marked role (marks line))
    (hunbroken : Document.Unbroken line) (hclosed : stateBehind line = .code)
    (hbegins : line.head?.any (fun c => !Text.isBlank c) = true)
    (hcomment : ¬ "--".toList <+: line)
    (hquiet : role.aligns = false →
      ∀ word ∈ words line, ∀ stem ∈ closingStems, ¬ stem <+: word)
    (hstem : role.aligns = true → ∃ stem ∈ closingStems, stem <+: line) : Plays role line :=
  ⟨hunbroken, hclosed, hbegins, hcomment, by rw [delta_marks, hmarked.delta_eq],
    fun depth => by rw [unclosed_marks, hmarked.unclosed_eq],
    fun hrole => quiet_of_words (hquiet hrole), hstem⟩

/-! ## Parts of lines -/

/-- The words of a part of a line are no marks and begin like none. -/
theorem IsPart.word {text : Text} (hpart : IsPart text) : ∀ word ∈ words text,
    isMark word = false ∧ ∀ stem ∈ closingStems, ¬ stem <+: word := by
  intro word hword
  obtain ⟨token, htoken, rfl⟩ := List.mem_map.mp (List.mem_filter.mp hword).1
  obtain ⟨hopens, hcloses, hstems⟩ := hpart.plain token htoken
  exact ⟨by simp [isMark, hopens, hcloses], hstems⟩

/-- A part of a line has no marks. -/
theorem IsPart.marks_eq {text : Text} (hpart : IsPart text) : marks text = [] := by
  rw [marks, List.filter_eq_nil_iff]
  intro word hword
  simp [(hpart.word word hword).1]

/-- Statements keep the level. -/
theorem IsPlain.plays {text : Text} (hplain : IsPlain text) : Plays .plain text :=
  plays_of_marks (hplain.marks_eq ▸ .plain) hplain.unbroken hplain.closed hplain.begins
    hplain.notComment (fun _ word hword => (hplain.word word hword).2) nofun

end LuaAssist.Indent

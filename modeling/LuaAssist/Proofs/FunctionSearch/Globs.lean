import LuaAssist.FunctionSearch
import LuaAssist.Proofs.Token.Spread
import Mathlib.Data.List.Infix

/-!
# Queries as globs

A query with wildcards is read sign by sign, with the rests of the header that can be left
behind the signs so far. These are always ends of one text, the longest first, and therefore the
longest alone decides what `*` can leave. What remains at the end says whether some part of the
header is matched as a glob. A query without wildcards finds the same functions as the glob with
`*` on both sides.
-/

namespace LuaAssist

open Lexer (IsAscii)

/-! ## Parts of a text -/

namespace Text

variable {part text : Text}

/-- What is left of a text as characters go from its front. -/
theorem suffixes_eq_tails (text : Text) : suffixes text = text.tails := by
  induction text with
  | nil => rfl
  | cons c rest ih => rw [suffixes, ih, List.tails_cons]

/-- All ends of a text are listed. -/
@[simp] theorem mem_suffixes : part ∈ suffixes text ↔ part <:+ text := by
  rw [suffixes_eq_tails, List.mem_tails]

/-- One text occurs in another if it stands between two parts of it. -/
theorem occursIn_iff : occursIn part text = true ↔ part <:+: text := by
  simp only [occursIn, List.any_eq_true, mem_suffixes, List.isPrefixOf_iff_prefix]
  constructor
  · rintro ⟨rest, hrest, hpart⟩
    exact hpart.isInfix.trans hrest.isInfix
  · rintro ⟨before, after, rfl⟩
    exact ⟨part ++ after, ⟨before, (List.append_assoc _ _ _).symm⟩, List.prefix_append _ _⟩

/-- In ASCII the simple case folding is the lowercase form. -/
theorem foldChar_of_isAscii {c : Char} (hc : IsAscii c) : foldChar c = c.toLower := if_pos hc

/-- In ASCII lowercase is a matter of single characters. -/
theorem lowercase_of_isAscii (hascii : ∀ c ∈ text, IsAscii c) :
    lowercase text = text.map Char.toLower := by
  have hbehind : ∀ before, lowercaseAfter before text = text.map Char.toLower := by
    induction text with
    | nil => exact fun _ => rfl
    | cons c rest ih =>
      obtain ⟨hc, hrest⟩ := List.forall_mem_cons.mp hascii
      have hsigma : c ≠ '\u03a3' := by
        rintro rfl
        exact absurd hc (by decide)
      have hlower : lowerChar c = [c.toLower] := if_pos hc
      intro before
      rw [lowercaseAfter, if_neg hsigma, hlower, ih hrest]
      rfl
  exact hbehind []

end Text

namespace FunctionSearch

variable {query part text : Text} {rests : List Text}

/-! ## Globs -/

/-- A text that a query matches as a glob: `*` stands for any text, `?` for any one character,
and every other character for itself in either case. -/
inductive Glob : Text → Text → Prop where
  | nil : Glob [] []
  | anyText {query rest : Text} (taken : Text) : Glob query rest →
      Glob ('*' :: query) (taken ++ rest)
  | anyChar {query rest : Text} (c : Char) : Glob query rest → Glob ('?' :: query) (c :: rest)
  | char {query rest : Text} {d c : Char} : d ≠ '*' → d ≠ '?' → d.toLower = c.toLower →
      Glob query rest → Glob (d :: query) (c :: rest)

/-- The sign takes this piece of a text. -/
def Sign.TakesPiece : Sign → Text → Prop
  | .anyText, _ => True
  | sign, piece => ∃ c, piece = [c] ∧ sign.takes c = true

/-- In ASCII a glob matches piece by piece what the signs of its characters take. -/
theorem glob_cons_iff {d : Char} (hd : IsAscii d) (hpart : ∀ c ∈ part, IsAscii c) :
    Glob (d :: query) part ↔
      ∃ piece rest, part = piece ++ rest ∧ (Sign.ofChar d).TakesPiece piece ∧ Glob query rest := by
  constructor
  · intro hglob
    cases hglob with
    | anyText taken hrest => exact ⟨taken, _, rfl, trivial, hrest⟩
    | anyChar c hrest => exact ⟨[c], _, rfl, ⟨c, rfl, rfl⟩, hrest⟩
    | @char _ rest _ c hstar hmark hsame hrest =>
      have hc := hpart c List.mem_cons_self
      refine ⟨[c], rest, rfl, ?_, hrest⟩
      rw [Sign.ofChar, if_neg hstar, if_neg hmark]
      refine ⟨c, rfl, ?_⟩
      simp [Sign.takes, Text.foldChar_of_isAscii hc, Text.foldChar_of_isAscii hd, hsame]
  · rintro ⟨piece, rest, rfl, htakes, hrest⟩
    by_cases hstar : d = '*'
    · subst hstar
      exact .anyText piece hrest
    by_cases hmark : d = '?'
    · subst hmark
      obtain ⟨c, rfl, _⟩ := htakes
      exact .anyChar c hrest
    · rw [Sign.ofChar, if_neg hstar, if_neg hmark] at htakes
      obtain ⟨c, rfl, hsame⟩ := htakes
      have hc := hpart c List.mem_cons_self
      simp only [Sign.takes, Text.foldChar_of_isAscii hc, Text.foldChar_of_isAscii hd,
        decide_eq_true_eq] at hsame
      exact .char hstar hmark hsame.symm hrest

/-- A glob put together from two matches two texts, one behind the other. -/
theorem glob_append_iff (front back : Text) :
    Glob (front ++ back) text ↔ ∃ first second, text = first ++ second ∧
      Glob front first ∧ Glob back second := by
  constructor
  · intro hglob
    induction front generalizing text with
    | nil => exact ⟨[], text, rfl, .nil, hglob⟩
    | cons d front ih =>
      cases hglob with
      | anyText taken hrest =>
        obtain ⟨first, second, rfl, hfirst, hsecond⟩ := ih hrest
        exact ⟨taken ++ first, second, (List.append_assoc _ _ _).symm, .anyText taken hfirst,
          hsecond⟩
      | anyChar c hrest =>
        obtain ⟨first, second, rfl, hfirst, hsecond⟩ := ih hrest
        exact ⟨c :: first, second, rfl, .anyChar c hfirst, hsecond⟩
      | @char _ _ _ c hstar hmark hsame hrest =>
        obtain ⟨first, second, rfl, hfirst, hsecond⟩ := ih hrest
        exact ⟨c :: first, second, rfl, .char hstar hmark hsame hfirst, hsecond⟩
  · rintro ⟨first, second, rfl, hfirst, hsecond⟩
    induction hfirst with
    | nil => exact hsecond
    | anyText taken _ ih =>
      rw [List.append_assoc]
      exact .anyText taken ih
    | anyChar c _ ih => exact .anyChar c ih
    | char hstar hmark hsame _ ih => exact .char hstar hmark hsame ih

/-- A lone `*` matches everything. -/
theorem glob_star (text : Text) : Glob ['*'] text := by
  have hglob : Glob ['*'] (text ++ []) := .anyText text .nil
  rwa [List.append_nil] at hglob

/-- A query without wildcards matches itself in either case. -/
theorem glob_iff_of_not_hasWildcard (hplain : hasWildcard query = false) :
    Glob query text ↔ query.map Char.toLower = text.map Char.toLower := by
  induction query generalizing text with
  | nil =>
    constructor
    · rintro ⟨⟩
      rfl
    · intro hsame
      obtain rfl : text = [] := by simpa using hsame.symm
      exact .nil
  | cons d query ih =>
    simp only [hasWildcard, List.contains_cons, Bool.or_eq_false_iff, beq_eq_false_iff_ne] at hplain
    obtain ⟨⟨hstar, hstars⟩, hmark, hmarks⟩ := hplain
    have ih := fun text => @ih text (by rw [hasWildcard, hstars, hmarks]; rfl)
    constructor
    · intro hglob
      cases hglob with
      | anyText taken hrest => exact absurd rfl hstar
      | anyChar c hrest => exact absurd rfl hmark
      | char _ _ hsame hrest =>
        rw [List.map_cons, List.map_cons, hsame, (ih _).mp hrest]
    · intro hsame
      cases text with
      | nil => cases hsame
      | cons c rest =>
        obtain ⟨hhead, htail⟩ := List.cons.inj hsame
        exact .char hstar.symm hmark.symm hhead ((ih rest).mpr htail)

/-! ## Reading the signs -/

/-- The rests are ends of one text, each an end of those before it. -/
def Nested (rests : List Text) : Prop := rests.Pairwise fun longer shorter => shorter <:+ longer

/-- All ends of a text are such rests. -/
theorem nested_suffixes (text : Text) : Nested (Text.suffixes text) := by
  induction text with
  | nil => exact List.pairwise_singleton _ _
  | cons c rest ih =>
    refine List.pairwise_cons.mpr ⟨fun shorter hshorter => ?_, ih⟩
    exact (Text.mem_suffixes.mp hshorter).trans (List.suffix_cons c rest)

/-- One sign that is not `*` goes one character further in each rest. -/
theorem mem_filterMap_takeOne? {sign : Sign} {rest : Text} :
    rest ∈ rests.filterMap sign.takeOne? ↔ ∃ c, sign.takes c = true ∧ c :: rest ∈ rests := by
  rw [List.mem_filterMap]
  constructor
  · rintro ⟨text, hmem, htaken⟩
    cases text with
    | nil => cases htaken
    | cons c behind =>
      rw [Sign.takeOne?, Option.ite_none_right_eq_some, Option.some.injEq] at htaken
      obtain ⟨htakes, rfl⟩ := htaken
      exact ⟨c, htakes, hmem⟩
  · rintro ⟨c, htakes, hmem⟩
    exact ⟨c :: rest, hmem, if_pos htakes⟩

/-- Going one character further in each rest keeps them ends of one text. -/
theorem Nested.filterMap_takeOne? (hnested : Nested rests) (sign : Sign) :
    Nested (rests.filterMap sign.takeOne?) := by
  refine List.Pairwise.filterMap _ ?_ hnested
  intro longer shorter hsuffix behind hbehind other hother
  cases longer with
  | nil => cases hbehind
  | cons c longer =>
    cases shorter with
    | nil => cases hother
    | cons d shorter =>
      simp only [Sign.takeOne?, Option.ite_none_right_eq_some, Option.some.injEq] at hbehind hother
      obtain ⟨_, rfl⟩ := hbehind
      obtain ⟨_, rfl⟩ := hother
      rcases List.suffix_cons_iff.mp hsuffix with heq | hwithin
      · rw [(List.cons.inj heq).2]
      · exact (List.suffix_cons d shorter).trans hwithin

/-- The rests behind one sign: a rest in front of it without a piece that the sign takes. That
the rests are nested matters for `*`, which looks at the longest one only. -/
theorem mem_step {sign : Sign} {rest : Text} (hnested : Nested rests) :
    rest ∈ Sign.step rests sign ↔
      ∃ piece, sign.TakesPiece piece ∧ piece ++ rest ∈ rests := by
  have hone : (∃ c, sign.takes c = true ∧ c :: rest ∈ rests) ↔
      ∃ piece, (∃ c, piece = [c] ∧ sign.takes c = true) ∧ piece ++ rest ∈ rests := by
    constructor
    · rintro ⟨c, htakes, hmem⟩
      exact ⟨[c], ⟨c, rfl, htakes⟩, hmem⟩
    · rintro ⟨_, ⟨c, rfl, htakes⟩, hmem⟩
      exact ⟨c, htakes, hmem⟩
  cases sign with
  | anyText =>
    cases rests with
    | nil => simp [Sign.step]
    | cons longest others =>
      simp only [Sign.step, Text.mem_suffixes, Sign.TakesPiece, true_and]
      constructor
      · rintro ⟨piece, rfl⟩
        exact ⟨piece, List.mem_cons_self⟩
      · rintro ⟨piece, hmem⟩
        refine (List.suffix_append piece rest).trans ?_
        rcases List.mem_cons.mp hmem with heq | hother
        · rw [heq]
        · exact (List.pairwise_cons.mp hnested).1 _ hother
  | anyChar => exact mem_filterMap_takeOne?.trans hone
  | char d => exact mem_filterMap_takeOne?.trans hone

/-- One sign leaves ends of one text again. -/
theorem Nested.step (hnested : Nested rests) (sign : Sign) : Nested (Sign.step rests sign) := by
  cases sign with
  | anyText =>
    cases rests with
    | nil => exact List.Pairwise.nil
    | cons longest others => exact nested_suffixes longest
  | anyChar => exact hnested.filterMap_takeOne? _
  | char d => exact hnested.filterMap_takeOne? _

/-- The rests behind all signs of a query: a rest in front of them without a part that the query
matches as a glob. -/
theorem mem_foldl_step {rest : Text} (hquery : ∀ c ∈ query, IsAscii c) (hnested : Nested rests)
    (hrests : ∀ start ∈ rests, ∀ c ∈ start, IsAscii c) :
    rest ∈ (query.map Sign.ofChar).foldl Sign.step rests ↔
      ∃ part, Glob query part ∧ part ++ rest ∈ rests := by
  induction query generalizing rests with
  | nil =>
    constructor
    · intro hmem
      exact ⟨[], .nil, hmem⟩
    · rintro ⟨_, ⟨⟩, hmem⟩
      exact hmem
  | cons d query ih =>
    obtain ⟨hd, hquery⟩ := List.forall_mem_cons.mp hquery
    have hbehind : ∀ start ∈ Sign.step rests (Sign.ofChar d), ∀ c ∈ start, IsAscii c := by
      intro start hstart c hc
      obtain ⟨piece, _, hmem⟩ := (mem_step hnested).mp hstart
      exact hrests _ hmem c (List.mem_append_right _ hc)
    rw [List.map_cons, List.foldl_cons, ih hquery (hnested.step _) hbehind]
    constructor
    · rintro ⟨part, hglob, hmem⟩
      obtain ⟨piece, htakes, hmem⟩ := (mem_step hnested).mp hmem
      rw [← List.append_assoc] at hmem
      refine ⟨piece ++ part, (glob_cons_iff hd fun c hc => ?_).mpr
        ⟨piece, part, rfl, htakes, hglob⟩, hmem⟩
      exact hrests _ hmem c (List.mem_append_left _ hc)
    · rintro ⟨part, hglob, hmem⟩
      obtain ⟨piece, behind, rfl, htakes, hglob⟩ := (glob_cons_iff hd fun c hc =>
        hrests _ hmem c (List.mem_append_left _ hc)).mp hglob
      rw [List.append_assoc] at hmem
      exact ⟨behind, hglob, (mem_step hnested).mpr ⟨piece, htakes, hmem⟩⟩

/-- The signs of a query match a part of a text if the query matches a part as a glob. -/
theorem matchesPart_iff (hquery : ∀ c ∈ query, IsAscii c) (htext : ∀ c ∈ text, IsAscii c) :
    matchesPart (query.map Sign.ofChar) text = true ↔ ∃ part, part <:+: text ∧ Glob query part := by
  have hrests : ∀ start ∈ Text.suffixes text, ∀ c ∈ start, IsAscii c := fun start hstart c hc =>
    htext c ((Text.mem_suffixes.mp hstart).subset hc)
  rw [matchesPart, Bool.not_eq_true', List.isEmpty_eq_false_iff_exists_mem]
  constructor
  · rintro ⟨rest, hmem⟩
    obtain ⟨part, hglob, hmem⟩ := (mem_foldl_step hquery (nested_suffixes text) hrests).mp hmem
    exact ⟨part, (List.prefix_append part rest).isInfix.trans (Text.mem_suffixes.mp hmem).isInfix,
      hglob⟩
  · rintro ⟨part, ⟨before, rest, rfl⟩, hglob⟩
    refine ⟨rest, (mem_foldl_step hquery (nested_suffixes _) hrests).mpr ⟨part, hglob, ?_⟩⟩
    exact Text.mem_suffixes.mpr ⟨before, (List.append_assoc _ _ _).symm⟩

/-! ## Searching -/

/-- In ASCII a header answers a query, with wildcards or without, if the query matches a part of
it as a glob. -/
theorem finds_iff (hquery : ∀ c ∈ query, IsAscii c) (htext : ∀ c ∈ text, IsAscii c) :
    finds query text = true ↔ ∃ part, part <:+: text ∧ Glob query part := by
  cases hwild : hasWildcard query with
  | true => rw [finds, if_pos hwild, matchesPart_iff hquery htext]
  | false =>
    rw [finds, if_neg (by simp [hwild]), Text.occursIn_iff, Text.lowercase_of_isAscii hquery,
      Text.lowercase_of_isAscii htext]
    simp only [glob_iff_of_not_hasWildcard hwild]
    constructor
    · rintro ⟨before, after, hlowered⟩
      obtain ⟨front, back, rfl, hfront, rfl⟩ := List.map_eq_append_iff.mp hlowered.symm
      obtain ⟨first, part, rfl, rfl, hpart⟩ := List.map_eq_append_iff.mp hfront
      exact ⟨part, ⟨first, back, rfl⟩, hpart.symm⟩
    · rintro ⟨part, hpart, hsame⟩
      rw [hsame]
      exact hpart.map _

/-- Wildcards around a query change nothing about the parts that it matches. -/
theorem exists_glob_between_stars :
    (∃ part, part <:+: text ∧ Glob ('*' :: query ++ ['*']) part) ↔
      ∃ part, part <:+: text ∧ Glob query part := by
  constructor
  · rintro ⟨part, hpart, hglob⟩
    obtain ⟨front, last, rfl, hfront, _⟩ := (glob_append_iff _ _).mp hglob
    obtain ⟨first, inner, rfl, _, hinner⟩ := (glob_append_iff ['*'] _).mp hfront
    refine ⟨inner, List.IsInfix.trans ⟨first, last, rfl⟩ hpart, hinner⟩
  · rintro ⟨part, ⟨before, after, rfl⟩, hglob⟩
    exact ⟨before ++ part ++ after, List.infix_rfl,
      (glob_append_iff _ _).mpr ⟨_, _, rfl, .anyText before hglob, glob_star after⟩⟩

/-- The labels do not change the functions. -/
theorem map_signature_labelled (names : List Text) (signatures : List Signature) :
    (labelled names signatures).map Found.signature = signatures := by
  induction signatures generalizing names with
  | nil => rfl
  | cons signature rest ih => rw [labelled, List.map_cons, ih]

/-- A search answers with the labelled functions that the query finds, in another order. -/
theorem search_perm (signatures : List Signature) (query : Text) :
    (search signatures query).Perm
      (labelled [] (signatures.filter fun s => finds query s.display)) := by
  unfold search
  dsimp only
  rw [List.partition_eq_filter_filter]
  exact List.filter_append_perm _ _

/-- A query with wildcards finds the functions of whose header it matches some part as a glob;
and a query without wildcards finds what it finds with `*` on both sides, under the same labels.
All this is said of ASCII and of headers on one line. -/
theorem search_wildcards :
    (∀ (signatures : List Signature) (query : Text), hasWildcard query = true →
      (∀ c ∈ query, IsAscii c) →
      (∀ s ∈ signatures, (∀ c ∈ s.display, IsAscii c) ∧ '\n' ∉ s.display) →
      ∀ s, s ∈ (search signatures query).map Found.signature ↔
        s ∈ signatures ∧ ∃ before part after, s.display = before ++ part ++ after ∧
          Glob query part) ∧
    ∀ (signatures : List Signature) (query : Text), hasWildcard query = false →
      (∀ c ∈ query, IsAscii c) →
      (∀ s ∈ signatures, (∀ c ∈ s.display, IsAscii c) ∧ '\n' ∉ s.display) →
      (search signatures query).Perm (search signatures ('*' :: query ++ ['*'])) := by
  constructor
  · intro signatures query _ hquery hdisplays s
    rw [((search_perm signatures query).map Found.signature).mem_iff, map_signature_labelled,
      List.mem_filter]
    refine and_congr_right fun hmem => ?_
    rw [finds_iff hquery (hdisplays s hmem).1]
    constructor
    · rintro ⟨part, ⟨before, after, heq⟩, hglob⟩
      exact ⟨before, part, after, heq.symm, hglob⟩
    · rintro ⟨before, part, after, heq, hglob⟩
      exact ⟨part, ⟨before, after, heq.symm⟩, hglob⟩
  · intro signatures query _ hquery hdisplays
    have hstars : ∀ c ∈ '*' :: query ++ ['*'], IsAscii c := by
      refine List.forall_mem_append.mpr ⟨List.forall_mem_cons.mpr ⟨by decide, hquery⟩, ?_⟩
      decide
    have hsame : signatures.filter (fun s => finds query s.display) =
        signatures.filter fun s => finds ('*' :: query ++ ['*']) s.display := by
      refine List.filter_congr fun s hmem => Bool.eq_iff_iff.mpr ?_
      have hdisplay := (hdisplays s hmem).1
      rw [finds_iff hquery hdisplay, finds_iff hstars hdisplay, exists_glob_between_stars]
    have hperm := search_perm signatures query
    rw [hsame] at hperm
    exact hperm.trans (search_perm signatures _).symm

/-- A text with functions whose headers share parts. -/
def updatesText : Text := "function update(dt) end
function Player:update(dt) end
function render() end
function ui.drawUpdate() end
".toList

/-- A query with a point, which stands for itself, and one that is found at several places. -/
theorem search_wildcards_updates :
    (hasWildcard "ui.*UP".toList = true ∧ (∀ c ∈ "ui.*UP".toList, IsAscii c) ∧
      (∀ s ∈ Signature.ofText updatesText, (∀ c ∈ s.display, IsAscii c) ∧ '\n' ∉ s.display) ∧
      ∀ s, s ∈ (search (Signature.ofText updatesText) "ui.*UP".toList).map Found.signature ↔
        s ∈ Signature.ofText updatesText ∧ ∃ before part after,
          s.display = before ++ part ++ after ∧ Glob "ui.*UP".toList part) ∧
    hasWildcard "up".toList = false ∧ (∀ c ∈ "up".toList, IsAscii c) ∧
      (search (Signature.ofText updatesText) "up".toList).Perm
        (search (Signature.ofText updatesText) "*up*".toList) := by
  have hdisplays : ∀ s ∈ Signature.ofText updatesText,
      (∀ c ∈ s.display, IsAscii c) ∧ '\n' ∉ s.display := by decide +kernel
  have hwild : hasWildcard "ui.*UP".toList = true := by decide
  have hplain : hasWildcard "up".toList = false := by decide
  exact ⟨⟨hwild, by decide, hdisplays, search_wildcards.1 _ _ hwild (by decide) hdisplays⟩,
    hplain, by decide, search_wildcards.2 _ _ hplain (by decide) hdisplays⟩

end FunctionSearch

end LuaAssist

import LuaAssist.Proofs.CallSite.Found
import LuaAssist.Proofs.Text.Trim
import Mathlib.Data.List.Induction
import Mathlib.Data.List.Infix

/-!
# The innermost open call

Behind the name of a call, its parenthesis and arguments whose brackets are properly nested, the
call that is found is this one, whatever stands in front of the name. Leftwards from the cursor
nested brackets are never opened more often than closed, so the walk ends at the parenthesis of
the call and not before it.
-/

namespace LuaAssist

variable {left : Text}

/-! ## Nested brackets -/

namespace Brackets

/-- A sign that opens or closes a bracket. -/
def isBracket (c : Char) : Bool := c ∈ ['(', ')', '[', ']', '\x7b', '\x7d']

/-- The first sign opens what the second one closes. -/
inductive Pair : Char → Char → Prop where
  | parens : Pair '(' ')'
  | squares : Pair '[' ']'
  | braces : Pair '\x7b' '\x7d'

/-- All brackets of a text are properly nested. -/
inductive Nested : Text → Prop where
  | nil : Nested []
  | plain {c : Char} {rest : Text} (hc : isBracket c = false) (hrest : Nested rest) :
      Nested (c :: rest)
  | group {opening closing : Char} {inner rest : Text} (hpair : Pair opening closing)
      (hinner : Nested inner) (hrest : Nested rest) : Nested (opening :: (inner ++ closing :: rest))

/-- Other characters count nothing. -/
theorem excess_plain {c : Char} (hc : isBracket c = false) (text : Text) :
    excess (c :: text) = excess text := by
  simp only [isBracket, decide_eq_false_iff_not, List.mem_cons, List.not_mem_nil, or_false,
    not_or] at hc
  simp [excess, hc]

/-- They count nothing behind a text either. -/
theorem excess_concat {c : Char} (hc : isBracket c = false) (text : Text) :
    excess (text ++ [c]) = excess text := by
  simp only [isBracket, decide_eq_false_iff_not, List.mem_cons, List.not_mem_nil, or_false,
    not_or] at hc
  simp [excess, hc]

/-- No blank is a bracket. -/
theorem isBracket_of_isBlank {c : Char} (hblank : Text.isBlank c = true) : isBracket c = false := by
  simp only [isBracket, decide_eq_false_iff_not, List.mem_cons, List.not_mem_nil, or_false]
  rintro (rfl | rfl | rfl | rfl | rfl | rfl) <;> exact absurd hblank (by decide)

/-- A bracket that is closed counts nothing beside what stands in it and behind it. -/
theorem excess_group {opening closing : Char} (hpair : Pair opening closing) (inner rest : Text)
    (hinner : excess inner = none) :
    excess (opening :: (inner ++ closing :: rest)) = excess rest := by
  simp only [excess, none, Brackets.mk.injEq] at hinner
  cases hpair <;>
  · simp [excess]
    omega

/-- Nested brackets are closed as often as they are opened. -/
theorem Nested.excess_eq {text : Text} (hnested : Nested text) : excess text = none := by
  induction hnested with
  | nil => rfl
  | plain hc _ ih => rw [excess_plain hc, ih]
  | group hpair _ _ ihinner ihrest => rw [excess_group hpair _ _ ihinner, ihrest]

/-- The parentheses that two texts open beyond those they close. -/
theorem parens_excess_append (text other : Text) :
    (excess (text ++ other)).parens = (excess text).parens + (excess other).parens := by
  simp only [excess, List.count_append]
  omega

/-- A closing sign opens no parenthesis. -/
theorem parens_closing_le {opening closing : Char} (hpair : Pair opening closing)
    {rest : Text} (hrest : excess rest = none) : (excess (closing :: rest)).parens ≤ 0 := by
  simp only [excess, none, Brackets.mk.injEq] at hrest
  cases hpair <;>
  · simp [excess]
    omega

/-- From any place to the end nested parentheses are opened at most as often as closed. -/
theorem Nested.parens_suffix_le {text tail : Text} (hnested : Nested text) (htail : tail <:+ text) :
    (excess tail).parens ≤ 0 := by
  have hwhole : ∀ {text : Text}, Nested text → (excess text).parens ≤ 0 := fun hnested => by
    rw [hnested.excess_eq]
    exact Int.le_refl 0
  induction hnested generalizing tail with
  | nil => exact hwhole (List.suffix_nil.mp htail ▸ .nil)
  | plain hc hrest ih =>
    rcases List.suffix_cons_iff.mp htail with rfl | htail
    · exact hwhole (.plain hc hrest)
    · exact ih htail
  | @group opening closing inner rest hpair hinner hrest ihinner ihrest =>
    have hclosing := parens_closing_le hpair hrest.excess_eq
    rcases List.suffix_cons_iff.mp htail with rfl | htail
    · exact hwhole (.group hpair hinner hrest)
    rcases List.suffix_or_suffix_of_suffix htail (List.suffix_append inner (closing :: rest)) with
      hbehind | ⟨front, rfl⟩
    · rcases List.suffix_cons_iff.mp hbehind with rfl | hbehind
      · exact hclosing
      · exact ihrest hbehind
    · -- The front of what is cut off ends the inside of the group.
      have hfront := ihinner (List.suffix_append_self_iff.mp htail)
      rw [parens_excess_append]
      omega

end Brackets

namespace CallSite

open Brackets (excess Nested)

/-! ## The walk to the parenthesis -/

/-- What is found lies left of where the walk begins. -/
theorem length_lt_of_beforeOpen? {count : Brackets} {before : Text}
    (hfound : beforeOpen? count left = some before) : before.length < left.length := by
  induction left generalizing count with
  | nil => cases hfound
  | cons c rest ih =>
    rw [beforeOpen?] at hfound
    split at hfound
    · cases hfound
      exact Nat.lt_succ_self _
    · exact Nat.lt_succ_of_lt (ih hfound)

/-- The walk ends at a sign exactly if from there to the end of the text one parenthesis more is
opened than closed, and from no place behind it. `seen` is what has been passed before, in the order
of the document. -/
theorem beforeOpen?_eq_some_iff {inside seen before : Text} {sign : Char}
    (hseen : excess seen ≠ .oneParen) :
    beforeOpen? (excess seen) (inside.reverse ++ sign :: before) = some before ↔
      (∀ tail, tail <:+ inside → excess (tail ++ seen) ≠ .oneParen) ∧
        excess (sign :: (inside ++ seen)) = .oneParen := by
  -- The walk meets the last character first, so the inside is taken apart at its end.
  induction inside using List.reverseRecOn generalizing seen with
  | nil =>
    have hother : beforeOpen? (excess (sign :: seen)) before ≠ some before := fun hfound =>
      absurd (length_lt_of_beforeOpen? hfound) (Nat.lt_irrefl _)
    rw [List.reverse_nil, List.nil_append, beforeOpen?, Brackets.after_excess]
    simp [hseen, hother]
  | append_singleton inside c ih =>
    rw [List.reverse_concat, List.cons_append, beforeOpen?, Brackets.after_excess]
    split
    · rename_i hone
      refine ⟨fun hfound => ?_, fun hpassed => ?_⟩
      · have hlength := congrArg List.length (Option.some.inj hfound)
        simp only [List.length_append, List.length_cons] at hlength
        omega
      · exact absurd hone (hpassed.1 [c] (List.suffix_append inside [c]))
    · rename_i hone
      rw [ih hone, List.append_assoc, List.singleton_append]
      refine and_congr_left fun _ => ⟨fun hpassed tail htail => ?_, fun hpassed tail htail => ?_⟩
      · rcases List.suffix_concat_iff.mp htail with rfl | ⟨front, rfl, hfront⟩
        · exact hseen
        · rw [List.append_assoc, List.singleton_append]
          exact hpassed front hfront
      · have hother := hpassed (tail ++ [c]) (List.suffix_append_self_iff.mpr htail)
        rwa [List.append_assoc] at hother

/-- The walk passes over the text: its brackets are closed as often as they are opened, and from no
place in it to its end one parenthesis more is opened than closed and nothing else. -/
structure Passable (text : Text) : Prop where
  excess_eq : excess text = .none
  ne_oneParen : ∀ tail, tail <:+ text → excess tail ≠ .oneParen

instance (text : Text) : Decidable (Passable text) :=
  decidable_of_iff (excess text = .none ∧ ∀ tail ∈ text.tails, excess tail ≠ .oneParen)
    ⟨fun ⟨heven, htails⟩ => ⟨heven, fun tail htail => htails tail ((List.mem_tails _ _).mpr htail)⟩,
      fun ⟨heven, htails⟩ => ⟨heven, fun tail htail => htails tail ((List.mem_tails _ _).mp htail)⟩⟩

/-- The parenthesis in front of a text is found exactly if the walk passes over the text. -/
theorem beforeOpen?_paren_iff {arguments before : Text} :
    beforeOpen? .none (arguments.reverse ++ '(' :: before) = some before ↔ Passable arguments := by
  have hwalk := @beforeOpen?_eq_some_iff arguments [] before '(' (by decide)
  simp only [List.append_nil, Brackets.excess_paren] at hwalk
  exact hwalk.trans ⟨fun ⟨htails, heven⟩ => ⟨heven, htails⟩, fun ⟨heven, htails⟩ => ⟨htails, heven⟩⟩

/-- Characters that are no brackets do not matter behind a text. -/
theorem passable_append_iff {text other : Text}
    (hplain : ∀ c ∈ other, Brackets.isBracket c = false) :
    Passable (text ++ other) ↔ Passable text := by
  induction other using List.reverseRecOn with
  | nil => rw [List.append_nil]
  | append_singleton other c ih =>
    obtain ⟨hother, hc⟩ := List.forall_mem_append.mp hplain
    have hsame (front : Text) : excess (front ++ [c]) = excess front :=
      Brackets.excess_concat (hc c (List.mem_singleton_self c)) front
    rw [← ih hother, ← List.append_assoc]
    constructor
    · rintro ⟨heven, htails⟩
      refine ⟨by rwa [hsame] at heven, fun tail htail => ?_⟩
      have hone := htails (tail ++ [c]) (List.suffix_append_self_iff.mpr htail)
      rwa [hsame] at hone
    · rintro ⟨heven, htails⟩
      refine ⟨by rwa [hsame], fun tail htail => ?_⟩
      rcases List.suffix_concat_iff.mp htail with rfl | ⟨front, rfl, hfront⟩
      · decide
      · rw [hsame]
        exact htails front hfront

/-- The walk passes over a text without brackets. -/
theorem passable_of_plain {text : Text} (hplain : ∀ c ∈ text, Brackets.isBracket c = false) :
    Passable text :=
  (@passable_append_iff [] text hplain).mpr (by decide)

/-- Characters that are no brackets do not matter in front of a text either. -/
theorem passable_cons_iff {c : Char} {text : Text} (hplain : Brackets.isBracket c = false) :
    Passable (c :: text) ↔ Passable text := by
  have hsame : excess (c :: text) = excess text := Brackets.excess_plain hplain text
  constructor
  · rintro ⟨heven, htails⟩
    exact ⟨hsame ▸ heven, fun tail htail => htails tail (htail.trans (List.suffix_cons c text))⟩
  · rintro ⟨heven, htails⟩
    refine ⟨hsame.trans heven, fun tail htail => ?_⟩
    rcases List.suffix_cons_iff.mp htail with rfl | htail
    · rw [hsame, heven]
      decide
    · exact htails tail htail

/-- Blanks at the end do not matter. -/
theorem passable_trimEnd_iff {text : Text} : Passable (Text.trimEnd text) ↔ Passable text := by
  conv_rhs => rw [← Text.trimEnd_append_blanks text]
  refine (passable_append_iff fun c hmem => Brackets.isBracket_of_isBlank ?_).symm
  exact List.all_eq_true.mp List.all_takeWhile c (List.mem_reverse.mp hmem)

/-- The walk passes over nested brackets. -/
theorem passable_of_nested {text : Text} (hnested : Nested text) : Passable text := by
  refine ⟨hnested.excess_eq, fun tail htail hone => ?_⟩
  have hle := hnested.parens_suffix_le htail
  rw [hone] at hle
  exact absurd hle (by decide)

/-- Leftwards from the end of nested arguments the first bracket that is open is the parenthesis in
front of them. -/
theorem beforeOpen?_nested {arguments : Text} (hnested : Nested arguments) (before : Text) :
    beforeOpen? .none ((Text.trimEnd arguments).reverse ++ '(' :: before) = some before :=
  beforeOpen?_paren_iff.mpr (passable_trimEnd_iff.mpr (passable_of_nested hnested))

/-! ## The names in front of the parenthesis -/

section Words

variable {name run : Text} {sign : Char}

/-- A word of the chain that ends at the start of the text. -/
theorem chainWords_all (afterWord : Bool) (hrun : ∀ c ∈ run, Text.isIdentifierPart c = true) :
    chainWords afterWord run = if run.isEmpty then [] else [run.reverse] := by
  have htake : run.takeWhile Text.isIdentifierPart = run := List.takeWhile_eq_self_iff.mpr hrun
  rw [chainWords]
  split
  · rw [htake]
  · rename_i hdrop
    rw [htake, List.drop_length] at hdrop
    cases hdrop

/-- A word of the chain in front of which another character stands. -/
theorem chainWords_run (afterWord : Bool)
    (hrun : ∀ c ∈ run, Text.isIdentifierPart c = true)
    (hsign : Text.isIdentifierPart sign = false) (rest : Text) :
    chainWords afterWord (run ++ sign :: rest) =
      if !Text.isBlank sign && sign ≠ '.' && sign ≠ ':' then [run.reverse]
      else if !run.isEmpty then
        if afterWord then [run.reverse] else run.reverse :: chainWords (Text.isBlank sign) rest
      else if Text.isBlank sign then chainWords afterWord rest
      else if afterWord then chainWords false rest
      else [] := by
  have htake : (run ++ sign :: rest).takeWhile Text.isIdentifierPart = run := by
    rw [List.takeWhile_append_of_pos hrun, List.takeWhile_cons_of_neg (by simp [hsign]),
      List.append_nil]
  conv => lhs; rw [chainWords]
  split
  · rename_i hdrop
    rw [htake, List.drop_left] at hdrop
    cases hdrop
  · rename_i hdrop
    rw [htake, List.drop_left] at hdrop
    obtain ⟨rfl, rfl⟩ := List.cons.inj hdrop
    simp only [htake]

/-- A run of name characters. -/
structure IsWord (name : Text) : Prop where
  ne_nil : name ≠ []
  parts : ∀ c ∈ name, Text.isIdentifierPart c = true

instance (name : Text) : Decidable (IsWord name) :=
  decidable_of_iff (name ≠ [] ∧ ∀ c ∈ name, Text.isIdentifierPart c = true)
    ⟨fun ⟨hne, hparts⟩ => ⟨hne, hparts⟩, fun ⟨hne, hparts⟩ => ⟨hne, hparts⟩⟩

/-- A word is the last one if the character in front of it ends the chain, or if the word behind it
stands side by side with it. -/
theorem chainWords_reverse (hname : IsWord name) (hsign : Text.isIdentifierPart sign = false)
    (afterWord : Bool) (rest : Text) :
    chainWords afterWord (name.reverse ++ sign :: rest) =
      if (!Text.isBlank sign && sign ≠ '.' && sign ≠ ':') || afterWord then [name]
      else name :: chainWords (Text.isBlank sign) rest := by
  have hrun : ∀ c ∈ name.reverse, Text.isIdentifierPart c = true := by simpa using hname.parts
  have hne : name.reverse.isEmpty = false := by simpa using hname.ne_nil
  rw [chainWords_run afterWord hrun hsign, hne, List.reverse_reverse]
  cases afterWord <;> simp

/-- A sign between two words keeps them in one chain. -/
theorem chainWords_sign (hname : IsWord name) (hsign : sign = '.' ∨ sign = ':') (rest : Text) :
    chainWords false (name.reverse ++ sign :: rest) = name :: chainWords false rest := by
  have hspec : Text.isIdentifierPart sign = false ∧ Text.isBlank sign = false ∧
      (!decide (sign = '.') && !decide (sign = ':')) = false := by
    rcases hsign with rfl | rfl <;> decide +kernel
  obtain ⟨hpart, hblank, hkeeps⟩ := hspec
  rw [chainWords_reverse hname hpart, hblank]
  simp [hkeeps]

end Words

/-- Blanks behind the chain are passed over. -/
theorem chainWords_blanks {blanks : Text} (hblanks : ∀ c ∈ blanks, Text.isBlank c = true)
    (afterWord : Bool) (left : Text) :
    chainWords afterWord (blanks ++ left) = chainWords afterWord left := by
  induction blanks with
  | nil => rfl
  | cons c blanks ih =>
    obtain ⟨hc, hblanks⟩ := List.forall_mem_cons.mp hblanks
    have hstep := chainWords_run afterWord (List.forall_mem_nil _)
      (Text.isIdentifierPart_of_isBlank hc) (blanks ++ left)
    rw [List.cons_append, ← ih hblanks, ← List.nil_append (c :: _), hstep]
    simp [hc]

/-- A name of a call: a run of name characters other than the word of function headers. -/
structure Callable (name : Text) : Prop where
  ne_nil : name ≠ []
  isIdentifierPart_of_mem : ∀ c ∈ name, Text.isIdentifierPart c = true
  ne_functionWord : name ≠ functionWord

instance (name : Text) : Decidable (Callable name) :=
  decidable_of_iff
    (name ≠ [] ∧ (∀ c ∈ name, Text.isIdentifierPart c = true) ∧ name ≠ functionWord)
    ⟨fun ⟨hne, hpart, hword⟩ => ⟨hne, hpart, hword⟩, fun ⟨hne, hpart, hword⟩ => ⟨hne, hpart, hword⟩⟩

/-- What can be called is a word. -/
theorem Callable.isWord {name : Text} (hname : Callable name) : IsWord name :=
  ⟨hname.ne_nil, hname.isIdentifierPart_of_mem⟩

/-- No chain ends with this text, which is read from its end: the first character that is not blank
is none of a name and no separator. -/
def EndsChain (left : Text) : Prop :=
  ∀ c ∈ (Text.trimStart left).head?, Text.isIdentifierPart c = false ∧ c ≠ '.' ∧ c ≠ ':'

/-- Blanks at the end do not matter. -/
theorem EndsChain.of_cons {c : Char} (hleft : EndsChain (c :: left))
    (hc : Text.isBlank c = true) : EndsChain left := by
  rwa [EndsChain, Text.trimStart, List.dropWhile_cons_of_pos hc] at hleft

/-- A character that is not blank ends the chain. -/
theorem EndsChain.of_not_isBlank {c : Char} (hleft : EndsChain (c :: left))
    (hc : Text.isBlank c = false) : Text.isIdentifierPart c = false ∧ c ≠ '.' ∧ c ≠ ':' := by
  rw [EndsChain, Text.trimStart, List.dropWhile_cons_of_neg (by simp [hc])] at hleft
  exact hleft c rfl

/-- Where the chain has ended there is at most an empty word. -/
theorem chainWords_outside (hleft : EndsChain left) :
    chainWords true left = [] ∨ chainWords true left = [[]] := by
  induction left with
  | nil => exact Or.inl (chainWords_all true (List.forall_mem_nil _))
  | cons c left ih =>
    cases hc : Text.isBlank c with
    | true =>
      have hskip := chainWords_blanks (List.forall_mem_singleton.mpr hc) true left
      rw [List.singleton_append] at hskip
      rw [hskip]
      exact ih (hleft.of_cons hc)
    | false =>
      obtain ⟨hpart, hpoint, hcolon⟩ := hleft.of_not_isBlank hc
      have hstep := chainWords_run true (List.forall_mem_nil _) hpart left
      rw [List.nil_append] at hstep
      rw [hstep, if_pos (by simp [hc, hpoint, hcolon])]
      exact Or.inr rfl

/-- The outermost name of a chain is its last word, but for an empty one. -/
theorem chainWords_outermost {name : Text} (hname : Callable name) (hleft : EndsChain left) :
    ∃ outside, (outside = [] ∨ outside = [[]]) ∧
      chainWords false (name.reverse ++ left) = name :: outside := by
  cases left with
  | nil =>
    have hrun : ∀ c ∈ name.reverse, Text.isIdentifierPart c = true := by
      simpa using hname.isIdentifierPart_of_mem
    have hne : name.reverse.isEmpty = false := by simpa using hname.ne_nil
    refine ⟨[], Or.inl rfl, ?_⟩
    rw [List.append_nil, chainWords_all false hrun, hne, List.reverse_reverse]
    rfl
  | cons c left =>
    cases hc : Text.isBlank c with
    | true =>
      refine ⟨chainWords true left, chainWords_outside (hleft.of_cons hc), ?_⟩
      rw [chainWords_reverse hname.isWord (Text.isIdentifierPart_of_isBlank hc), hc]
      rfl
    | false =>
      obtain ⟨hpart, hpoint, hcolon⟩ := hleft.of_not_isBlank hc
      refine ⟨[], Or.inl rfl, ?_⟩
      rw [chainWords_reverse hname.isWord hpart, if_pos (by simp [hc, hpoint, hcolon])]

/-- Names as they are written, each with the sign behind it. -/
def ownersText (owners : List (Text × Char)) : Text :=
  owners.flatMap fun (name, sign) => name ++ [sign]

/-- The words are the names of the chain, the nearest first. -/
theorem chainWords_chain {owners : List (Text × Char)} {callee : Text} (hcallee : Callable callee)
    (howners : ∀ name ∈ owners.map Prod.fst, Callable name)
    (hsigns : ∀ sign ∈ owners.map Prod.snd, sign = '.' ∨ sign = ':') (hleft : EndsChain left) :
    ∃ outside, (outside = [] ∨ outside = [[]]) ∧
      chainWords false (callee.reverse ++ ((ownersText owners).reverse ++ left)) =
        callee :: ((owners.map Prod.fst).reverse ++ outside) := by
  -- The chain is read from its end, so its last owner comes first.
  induction owners using List.reverseRecOn generalizing callee with
  | nil => exact chainWords_outermost hcallee hleft
  | append_singleton owners owner ih =>
    obtain ⟨name, sign⟩ := owner
    simp only [List.map_append, List.map_cons, List.map_nil, List.forall_mem_append,
      List.forall_mem_singleton] at howners hsigns
    obtain ⟨outside, houtside, hwords⟩ := ih howners.2 howners.1 hsigns.1
    have htext : (ownersText (owners ++ [(name, sign)])).reverse ++ left =
        sign :: (name.reverse ++ ((ownersText owners).reverse ++ left)) := by
      simp [ownersText]
    refine ⟨outside, houtside, ?_⟩
    rw [htext, chainWords_sign hcallee.isWord hsigns.2, hwords]
    simp

/-- In front of the last name stands no character of a name. -/
theorem head?_owners {owners : List (Text × Char)}
    (hsigns : ∀ sign ∈ owners.map Prod.snd, sign = '.' ∨ sign = ':') (hleft : EndsChain left) :
    ∀ c ∈ ((ownersText owners).reverse ++ left).head?, Text.isIdentifierPart c = false := by
  rcases List.eq_nil_or_concat owners with rfl | ⟨owners, ⟨name, sign⟩, rfl⟩
  · intro c hc
    obtain ⟨rest, rfl⟩ := List.head?_eq_some_iff.mp hc
    cases hblank : Text.isBlank c with
    | true => exact Text.isIdentifierPart_of_isBlank hblank
    | false => exact (hleft.of_not_isBlank hblank).1
  · rintro c hc
    obtain rfl : sign = c := by simpa [ownersText] using hc
    rcases hsigns sign (by simp) with rfl | rfl <;> decide

/-- Behind blanks a run of name characters is left over as a whole. -/
theorem dropWhile_run {blanks run : Text} (hblanks : ∀ c ∈ blanks, Text.isBlank c = true)
    (hrun : ∀ c ∈ run, Text.isIdentifierPart c = true) (hne : run ≠ [])
    (hleft : ∀ c ∈ left.head?, Text.isIdentifierPart c = false) :
    (Text.trimStart (blanks ++ (run ++ left))).dropWhile Text.isIdentifierPart = left := by
  have hsolid : Text.trimStart (run ++ left) = run ++ left := by
    refine trimStart_eq_self ?_
    rw [List.takeWhile_append_of_pos hrun]
    exact List.append_ne_nil_of_left_ne_nil hne _
  rw [Text.trimStart, List.dropWhile_append_of_pos hblanks, ← Text.trimStart, hsolid,
    List.dropWhile_append_of_pos hrun]
  cases left with
  | nil => rfl
  | cons c left => rw [List.dropWhile_cons_of_neg (by simp [hleft c rfl])]

/-! ## The call -/

/-- A called function as it is named in front of its parenthesis. -/
structure Called where
  /-- The names through which it is reached, each with the sign behind it. -/
  owners : List (Text × Char)
  /-- Its own name. -/
  callee : Text
  callable : ∀ name ∈ callee :: owners.map Prod.fst, Callable name
  isSeparator : ∀ sign ∈ owners.map Prod.snd, sign = '.' ∨ sign = ':'

/-- The chain as it is written. -/
def Called.text (called : Called) : Text := ownersText called.owners ++ called.callee

/-- Leftwards from the end of arguments, over blanks, stand these and their parenthesis. -/
theorem trimStart_leftOf_arguments (front arguments behind : Text) :
    Text.trimStart (TypedChain.leftOf (front ++ '(' :: arguments ++ behind)
        (front ++ '(' :: arguments).length) =
      (Text.trimEnd arguments).reverse ++ '(' :: front.reverse := by
  rw [TypedChain.leftOf, List.take_left, List.reverse_append, List.reverse_cons, List.append_assoc,
    List.singleton_append, Text.trimStart, List.dropWhile_append, Text.trimEnd,
    List.reverse_reverse]
  split
  · rename_i hempty
    rw [List.isEmpty_iff.mp hempty, List.dropWhile_cons_of_neg (by decide), List.nil_append]
  · rfl

/-- The cursor stands behind the name of a call, its parenthesis and arguments whose brackets are
properly nested, which are blank or end with a comma. If no chain ends in front of the name, this
call is found, whatever brackets are open there. -/
theorem find?_innermost {before blanks arguments : Text} (called : Called) (behind : Text)
    (hbefore : ∀ c ∈ (Text.trimEnd before).getLast?,
      Text.isIdentifierPart c = false ∧ c ≠ '.' ∧ c ≠ ':')
    (hblanks : ∀ c ∈ blanks, Text.isBlank c = true) (hnested : Nested arguments)
    (hlast : ∀ c ∈ (Text.trimEnd arguments).getLast?, c = ',') :
    find? (before ++ called.text ++ blanks ++ '(' :: arguments ++ behind)
        (before ++ called.text ++ blanks ++ '(' :: arguments).length =
      some ⟨called.callee, (before ++ ownersText called.owners).length,
        (before ++ called.text ++ blanks).length⟩ := by
  obtain ⟨hcallee, howners⟩ := List.forall_mem_cons.mp called.callable
  have hends : EndsChain before.reverse := by
    rw [Text.trimEnd, List.getLast?_reverse] at hbefore
    exact hbefore
  obtain ⟨outside, houtside, hwords⟩ := chainWords_chain hcallee howners called.isSeparator hends
  have hfront : (before ++ called.text ++ blanks).reverse = blanks.reverse ++
      (called.callee.reverse ++ ((ownersText called.owners).reverse ++ before.reverse)) := by
    simp [Called.text]
  generalize hsplit : before ++ called.text ++ blanks = front at hfront ⊢
  have hchain : chainWords false front.reverse =
      called.callee :: ((called.owners.map Prod.fst).reverse ++ outside) := by
    rw [hfront, chainWords_blanks (by simpa using hblanks), hwords]
  have hsign : ((Text.trimEnd arguments).reverse ++ '(' :: front.reverse).head? = some '(' ∨
      ((Text.trimEnd arguments).reverse ++ '(' :: front.reverse).head? = some ',' := by
    cases htrimmed : (Text.trimEnd arguments).getLast? with
    | none => simp [List.getLast?_eq_none_iff.mp htrimmed]
    | some c => simp [htrimmed, hlast c htrimmed]
  have hnamed : ∀ word ∈ called.callee :: ((called.owners.map Prod.fst).reverse ++ outside),
      word ≠ functionWord := by
    intro word hmem
    simp only [List.mem_cons, List.mem_append, List.mem_reverse] at hmem
    rcases hmem with rfl | hmem | hmem
    · exact hcallee.ne_functionWord
    · exact (howners word hmem).ne_functionWord
    · rcases houtside with rfl | rfl
      · cases hmem
      · rw [List.mem_singleton.mp hmem]
        decide
  obtain ⟨first, hfirst⟩ : ∃ first, (called.callee ::
      ((called.owners.map Prod.fst).reverse ++ outside)).getLast? = some first :=
    ⟨_, List.getLast?_cons⟩
  have hother := hnamed first (List.mem_of_getLast? hfirst)
  have hstart : (Text.trimStart front.reverse).dropWhile Text.isIdentifierPart =
      (before ++ ownersText called.owners).reverse := by
    rw [hfront, dropWhile_run (by simpa using hblanks)
      (by simpa using hcallee.isIdentifierPart_of_mem) (by simpa using hcallee.ne_nil)
      (head?_owners called.isSeparator hends), List.reverse_append]
  unfold find?
  dsimp only
  rw [trimStart_leftOf_arguments, if_neg (by rcases hsign with h | h <;> simp [h]),
    beforeOpen?_nested hnested]
  simp only [Option.bind_eq_bind, Option.bind_some, hchain, List.head?_cons, hfirst]
  rw [if_neg (by simp [hcallee.ne_nil, hcallee.ne_functionWord, hother]), hstart,
    List.length_reverse, List.length_reverse]

/-- A call behind brackets that are open or not opened, one of them a function header's. -/
theorem find?_innermost_open :
    Nested "x[1], (2), ".toList ∧
      find? "f(function g] a.b:c (x[1], (2), ) y".toList 32 = some ⟨['c'], 18, 20⟩ := by
  have hnested : Nested "x[1], (2), ".toList :=
    .plain rfl (.group .squares (.plain rfl .nil) (.plain rfl (.plain rfl
      (.group .parens (.plain rfl .nil) (.plain rfl (.plain rfl .nil))))))
  let called : Called := ⟨[(['a'], '.'), (['b'], ':')], ['c'], by decide, by decide⟩
  have hfound := @find?_innermost "f(function g] ".toList [' '] "x[1], (2), ".toList called
    ") y".toList (by decide) (by decide) hnested (by decide)
  have htext : "f(function g] ".toList ++ called.text ++ [' '] ++ '(' :: "x[1], (2), ".toList ++
      ") y".toList = "f(function g] a.b:c (x[1], (2), ) y".toList := by decide
  rw [htext] at hfound
  exact ⟨hnested, hfound⟩

end CallSite

end LuaAssist

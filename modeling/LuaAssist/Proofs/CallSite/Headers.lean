import LuaAssist.Proofs.CallSite.Literals
import LuaAssist.Proofs.TypedChain.Written

/-!
# Function headers are no calls

In front of the parenthesis of a header stand the word `function` and the name of the function, or
the word alone. The names are collected from their end, until two of them stand side by side: so the
word of the header is the first one that is collected or the last one, and no call is found.
-/

namespace LuaAssist.CallSite

open TypedChain (Joint)

variable {before left gap blanks header name parameters word : Text}

/-! ## Headers as they are written -/

/-- The name in a header. -/
structure HeaderName where
  /-- The names through which the function is reached, each with the sign behind it. -/
  owners : List (Text × Joint)
  /-- Its own name. -/
  last : Text
  isWord : ∀ name ∈ last :: owners.map Prod.fst, IsWord name

/-- Names as they are written, each with the sign behind it. -/
def jointedText (owners : List (Text × Joint)) : Text :=
  owners.flatMap fun (name, joint) => name ++ joint.text

/-- The name as it is written. -/
def HeaderName.text (name : HeaderName) : Text := jointedText name.owners ++ name.last

/-- What stands in front of the parenthesis of a header: the word `function`, and behind blanks a
name, if there is one. -/
inductive IsHeader : Text → Prop where
  | anonymous {blanks : Text} (hblanks : ∀ c ∈ blanks, Text.isBlank c = true) :
      IsHeader (functionWord ++ blanks)
  | named {gap blanks : Text} (name : HeaderName) (hne : gap ≠ [])
      (hgap : ∀ c ∈ gap, Text.isBlank c = true) (hblanks : ∀ c ∈ blanks, Text.isBlank c = true) :
      IsHeader (functionWord ++ (gap ++ (name.text ++ blanks)))

/-- The word that begins a header is a word. -/
theorem isWord_functionWord : IsWord functionWord := by decide +kernel

/-! ## The words in front of the parenthesis -/

/-- A word is collected with what stands in front of it, unless the word behind it stands side by
side with it. -/
theorem chainWords_word (afterWord : Bool) (hname : IsWord name)
    (hleft : ∀ c ∈ left.head?, Text.isIdentifierPart c = false) :
    ∃ outside, chainWords afterWord (name.reverse ++ left) = name :: outside ∧
      (afterWord = true → outside = []) := by
  cases left with
  | nil =>
    have hrun : ∀ c ∈ name.reverse, Text.isIdentifierPart c = true := by
      simpa using hname.parts
    rw [List.append_nil, chainWords_all afterWord hrun, List.reverse_reverse,
      if_neg (by simpa using hname.ne_nil)]
    exact ⟨[], rfl, fun _ => rfl⟩
  | cons c left =>
    rw [chainWords_reverse hname (hleft c rfl)]
    split
    · exact ⟨[], rfl, fun _ => rfl⟩
    · rename_i hmore
      exact ⟨_, rfl, fun hafter => absurd (by simp [hafter]) hmore⟩

/-- In front of blanks the next word stands side by side with a word. -/
theorem chainWords_gap (hname : IsWord name) (hne : gap ≠ [])
    (hgap : ∀ c ∈ gap, Text.isBlank c = true) (left : Text) :
    chainWords false (name.reverse ++ (gap.reverse ++ left)) = name :: chainWords true left := by
  obtain ⟨front, last, rfl⟩ : ∃ front last, gap = front ++ [last] :=
    ⟨_, _, (List.dropLast_concat_getLast hne).symm⟩
  obtain ⟨hfront, hlast⟩ := List.forall_mem_append.mp hgap
  have hblank := hlast last (List.mem_singleton_self last)
  have hmore : ∀ c ∈ front.reverse, Text.isBlank c = true := by simpa using hfront
  rw [List.reverse_concat, List.cons_append,
    chainWords_reverse hname (Text.isIdentifierPart_of_isBlank hblank), hblank,
    chainWords_blanks hmore]
  rfl

/-- A sign keeps two words in one chain also with blanks around it. -/
theorem chainWords_joint (hname : IsWord name) (joint : Joint) (left : Text) :
    chainWords false (name.reverse ++ (joint.text.reverse ++ left)) =
      name :: chainWords false left := by
  have hfront : ∀ c ∈ joint.front.reverse, Text.isBlank c = true := by
    simpa using joint.isBlank_front
  have hreverse : joint.text.reverse ++ left =
      joint.behind.reverse ++ (joint.sign :: (joint.front.reverse ++ left)) := by
    simp [Joint.text]
  rw [hreverse]
  by_cases hne : joint.behind = []
  · rw [hne, List.reverse_nil, List.nil_append, chainWords_sign hname joint.isSeparator,
      chainWords_blanks hfront]
  · -- The blanks show two words side by side, but the sign in front of them joins them again.
    have hjoins := chainWords_run true (List.forall_mem_nil _) joint.sign_spec.1
      (joint.front.reverse ++ left)
    rw [List.nil_append, joint.sign_spec.2, chainWords_blanks hfront] at hjoins
    rw [chainWords_gap hname hne joint.isBlank_behind, hjoins]
    rcases joint.isSeparator with hpoint | hcolon
    · simp [hpoint]
    · simp [hcolon]

/-- The words of a name behind another word: they are all collected, and the other word is the last
one. -/
theorem chainWords_named {owners : List (Text × Joint)} (hname : IsWord name)
    (howners : ∀ owner ∈ owners.map Prod.fst, IsWord owner) (hword : IsWord word) (hne : gap ≠ [])
    (hgap : ∀ c ∈ gap, Text.isBlank c = true)
    (hleft : ∀ c ∈ left.head?, Text.isIdentifierPart c = false) :
    chainWords false
        ((jointedText owners ++ name).reverse ++ (gap.reverse ++ (word.reverse ++ left))) =
      name :: ((owners.map Prod.fst).reverse ++ [word]) := by
  -- The name is read from its end, so its last owner comes first.
  induction owners using List.reverseRecOn generalizing name with
  | nil =>
    obtain ⟨outside, hwords, houtside⟩ := chainWords_word true hword hleft
    rw [jointedText, List.flatMap_nil, List.nil_append, chainWords_gap hname hne hgap, hwords,
      houtside rfl]
    rfl
  | append_singleton owners owner ih =>
    obtain ⟨owner, joint⟩ := owner
    simp only [List.map_append, List.map_cons, List.map_nil, List.forall_mem_append,
      List.forall_mem_singleton] at howners
    have hreverse : (jointedText (owners ++ [(owner, joint)]) ++ name).reverse =
        name.reverse ++ (joint.text.reverse ++ (jointedText owners ++ owner).reverse) := by
      simp [jointedText]
    rw [hreverse, List.append_assoc, List.append_assoc, chainWords_joint hname,
      ih howners.2 howners.1]
    simp

/-! ## No call -/

/-- No call is found where the nearest or the outermost word is the one of headers. -/
theorem find?_of_functionWord
    (hwords : (chainWords false before.reverse).head? = some functionWord ∨
      (chainWords false before.reverse).getLast? = some functionWord) :
    find? (before ++ ['(']) (before ++ ['(']).length = none := by
  unfold find?
  dsimp only
  rw [trimStart_leftOf_paren, if_neg (by simp), beforeOpen?,
    if_pos (Brackets.after_none_eq_oneParen.mpr rfl)]
  simp only [Option.bind_eq_bind, Option.bind_some]
  generalize chainWords false before.reverse = words at hwords
  cases hhead : words.head? with
  | none => rfl
  | some callee =>
    cases hlast : words.getLast? with
    | none => rfl
    | some first =>
      rw [hhead, hlast, Option.some_inj, Option.some_inj] at hwords
      simp only [Option.bind_some]
      exact if_pos (by rcases hwords with rfl | rfl <;> simp)

/-- Behind the parenthesis of a function header and parameters no call is found, whatever stands in
front of the header. -/
theorem find?_header (behind : Text)
    (hbefore : ∀ c ∈ before.getLast?, Text.isIdentifierPart c = false) (hheader : IsHeader header)
    (hplain : ∀ c ∈ parameters, Brackets.isBracket c = false)
    (hlast : ∀ c ∈ (Text.trimEnd parameters).getLast?, c = ',') :
    find? (before ++ header ++ '(' :: parameters ++ behind)
        (before ++ header ++ '(' :: parameters).length = none := by
  have hleft : ∀ c ∈ before.reverse.head?, Text.isIdentifierPart c = false := by
    rwa [List.head?_reverse]
  rw [find?_of_passable _ behind (passable_of_plain hplain) hlast]
  refine find?_of_functionWord ?_
  cases hheader with
  | @anonymous blanks hblanks =>
    left
    obtain ⟨outside, hwords, _⟩ := chainWords_word false isWord_functionWord hleft
    have hreverse : (before ++ (functionWord ++ blanks)).reverse =
        blanks.reverse ++ (functionWord.reverse ++ before.reverse) := by
      simp
    rw [hreverse, chainWords_blanks (by simpa using hblanks), hwords, List.head?_cons]
  | @named gap blanks headerName hne hgap hblanks =>
    right
    obtain ⟨hname, howners⟩ := List.forall_mem_cons.mp headerName.isWord
    have hwords := chainWords_named hname howners isWord_functionWord hne hgap hleft
    have hreverse : (before ++ (functionWord ++ (gap ++ (headerName.text ++ blanks)))).reverse =
        blanks.reverse ++ (headerName.text.reverse ++
          (gap.reverse ++ (functionWord.reverse ++ before.reverse))) := by
      simp
    rw [hreverse, chainWords_blanks (by simpa using hblanks), HeaderName.text, hwords,
      ← List.cons_append, List.getLast?_concat]

/-- A header whose name has owners, with blanks around a sign, behind an assignment. -/
theorem find?_header_owners :
    (∀ c ∈ "x = ".toList.getLast?, Text.isIdentifierPart c = false) ∧
      IsHeader "function a . b:c ".toList ∧
      (∀ c ∈ "p, q, ".toList, Brackets.isBracket c = false) ∧
      (∀ c ∈ (Text.trimEnd "p, q, ".toList).getLast?, c = ',') ∧
      find? "x = function a . b:c (p, q, ) end".toList 28 = none := by
  have hbefore : ∀ c ∈ "x = ".toList.getLast?, Text.isIdentifierPart c = false := by
    decide +kernel
  let spaced : Joint := ⟨[' '], '.', [' '], by decide, Or.inl rfl, by decide⟩
  let colon : Joint := ⟨[], ':', [], by decide, Or.inr rfl, by decide⟩
  have hword : ∀ name ∈ [['c'], ['a'], ['b']], IsWord name := by decide +kernel
  let name : HeaderName := ⟨[(['a'], spaced), (['b'], colon)], ['c'], hword⟩
  have hname : functionWord ++ ([' '] ++ (name.text ++ [' '])) = "function a . b:c ".toList := rfl
  have hheader : IsHeader "function a . b:c ".toList :=
    hname ▸ .named name (by decide) (by decide) (by decide)
  have hfound := @find?_header "x = ".toList _ "p, q, ".toList ") end".toList hbefore hheader
    (by decide) (by decide)
  have htext : "x = ".toList ++ "function a . b:c ".toList ++ '(' :: "p, q, ".toList ++
      ") end".toList = "x = function a . b:c (p, q, ) end".toList := by decide
  rw [htext] at hfound
  exact ⟨hbefore, hheader, by decide, by decide, hfound⟩

end LuaAssist.CallSite

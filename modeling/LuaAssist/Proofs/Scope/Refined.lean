import LuaAssist.Proofs.Scope.Collected
import LuaAssist.Proofs.Token.JoinedLines

/-!
# Names of every category

A name has a finer category that depends on the words in front of it. Whoever recognises
bindings asks for no more than whether a word is a name, so what a text binds does not change
when all its names are given the same category.
-/

namespace LuaAssist

/-- The category without what is finer than a name. -/
def TokenKind.bare (kind : TokenKind) : TokenKind := if kind.isName then .identifier else kind

/-- The token with a category that is no finer than a name. -/
def Token.bare (token : Token) : Token := { token with kind := token.kind.bare }

namespace Token

variable (token : Token)

/-- Forgetting what is known of a name keeps its text. -/
@[simp] theorem text_bare : token.bare.text = token.text := by
  cases token
  rfl

/-- What depends on the tokens before is finer than a name. -/
theorem bare_unrefined : token.unrefined.bare = token.bare := by
  obtain ⟨kind, text⟩ := token
  cases kind <;> rfl

/-- Bare tokens are told by tokens without what depends on the tokens before. -/
theorem map_bare_of_unrefined {tokens others : List Token}
    (hsame : tokens.map unrefined = others.map unrefined) :
    tokens.map bare = others.map bare := by
  have hbare := congrArg (List.map bare) hsame
  simpa only [List.map_map, Function.comp_def, bare_unrefined] using hbare

/-- What says nothing does so without refinement too. -/
@[simp] theorem isTrivia_bare : token.bare.kind.isTrivia = token.kind.isTrivia := by
  obtain ⟨kind, text⟩ := token
  cases kind <;> rfl

/-- A category other than that of a name is told by the bare token. -/
theorem bare_kind_eq_iff {kind : TokenKind} (hkind : kind.isName = false) :
    token.bare.kind = kind ↔ token.kind = kind := by
  simp only [bare, TokenKind.bare]
  split
  · rename_i hname
    refine iff_of_false ?_ ?_
    · rintro rfl
      cases hkind
    · rintro rfl
      rw [hname] at hkind
      cases hkind
  · exact Iff.rfl

/-- Numbers are not refined. -/
@[simp] theorem bare_kind_eq_number : token.bare.kind = .number ↔ token.kind = .number :=
  token.bare_kind_eq_iff rfl

/-- Strings are not refined. -/
@[simp] theorem bare_kind_eq_string : token.bare.kind = .string ↔ token.kind = .string :=
  token.bare_kind_eq_iff rfl

/-- Keywords are not refined. -/
@[simp] theorem bare_kind_eq_keyword : token.bare.kind = .keyword ↔ token.kind = .keyword :=
  token.bare_kind_eq_iff rfl

end Token

/-! ## Questions about one word -/

namespace Word

variable (word : Word)

/-- Signs are told apart by their text, which is kept. -/
@[simp] theorem isSign_bare (sign : String) : isSign word.bare sign = isSign word sign := by
  rw [Bool.eq_iff_iff]
  simp [isSign]

/-- Keywords are told apart by category and text, which are kept. -/
@[simp] theorem isKeyword_bare (keyword : String) :
    isKeyword word.bare keyword = isKeyword word keyword := by
  rw [Bool.eq_iff_iff]
  simp [isKeyword]

/-- All refinements of a name are names. -/
@[simp] theorem isName_bare : isName word.bare = isName word := by
  obtain ⟨kind, text⟩ := word
  cases kind <;> rfl

end Word

namespace Binding

/-- Whether a word ends a value does not depend on its refinement. -/
@[simp] theorem endsValue_bare (word : Word) : endsValue word.bare = endsValue word := by
  rw [Bool.eq_iff_iff]
  simp [endsValue]

/-- Nor does whether it ends an expression. -/
@[simp] theorem endsExpression_bare (word : Option Word) :
    endsExpression (word.map Token.bare) = endsExpression word := by
  cases word with
  | none => rfl
  | some word =>
    by_cases hkeyword : word.kind = .keyword
    · simp [endsExpression, hkeyword]
    · simp [endsExpression, hkeyword]

/-- Nor does whether the next word stops the expression that it ends. -/
@[simp] theorem stopsExpression_bare (previous word : Word) :
    stopsExpression previous.bare word.bare = stopsExpression previous word := by
  rw [Bool.eq_iff_iff]
  simp [stopsExpression]

end Binding

/-! ## Constructors -/

namespace Constructor

/-- Nor does whether a field may follow it. -/
@[simp] theorem precedesField_bare (word : Word) :
    precedesField word.bare = precedesField word := by
  simp [precedesField]

/-- The key of a field is told by bare words. -/
@[simp] theorem fieldKey?_bare (word : Word) (rest : List Word) :
    fieldKey? word.bare (rest.map Token.bare) = fieldKey? word rest := by
  rcases rest with _ | ⟨next, _ | ⟨close, _ | ⟨equals, behind⟩⟩⟩ <;> simp [fieldKey?]

/-- The members of a constructor are told by bare words. -/
theorem membersFrom_bare (pending : Option Text) (frame : Frame) (outer : List Frame)
    (previous : Word) (words : List Word) :
    membersFrom pending frame outer previous.bare (words.map Token.bare) =
      (membersFrom pending frame outer previous words).map id (List.map Token.bare) := by
  fun_induction membersFrom pending frame outer previous words with
  | case1 => simp [membersFrom]
  | case2 pending frame outer previous word rest hopen ih =>
    rw [List.map_cons, membersFrom.eq_def]
    simp only [Word.isSign_bare, hopen, if_true, ih]
  | case3 pending frame previous word rest hopen hclose =>
    rw [List.map_cons, membersFrom.eq_def]
    simp [hopen, hclose]
  | case4 pending frame previous word rest hopen hclose parent others ih =>
    rw [List.map_cons, membersFrom.eq_def]
    simp only [Word.isSign_bare, hopen, hclose, if_true, ih, Bool.false_eq_true, if_false]
  | case5 pending frame outer previous word rest hopen hclose key more hkey ih =>
    have hsign : Token.bare ⟨.operator, ['=']⟩ = ⟨.operator, ['=']⟩ := rfl
    rw [hsign] at ih
    rw [dite_eq_ite] at hkey
    rw [List.map_cons, membersFrom.eq_def]
    simp only [Word.isSign_bare, hopen, hclose, precedesField_bare, fieldKey?_bare, hkey,
      ← List.map_drop, ih, Bool.false_eq_true, if_false]
  | case6 pending frame outer previous word rest hopen hclose hkey ih =>
    rw [dite_eq_ite] at hkey
    rw [List.map_cons, membersFrom.eq_def]
    simp only [Word.isSign_bare, hopen, hclose, precedesField_bare, fieldKey?_bare, hkey, ih,
      Bool.false_eq_true, if_false]

end Constructor

namespace Binding

variable (words : List Word)

/-! ## Values -/

/-- The rest of a chain has the same names. -/
theorem chainTail_bare (methods : Bool) :
    chainTail methods (words.map Token.bare) =
      (chainTail methods words).map id (List.map Token.bare) := by
  fun_induction chainTail methods words with
  | case1 sign word rest hgoes names after hread ih =>
    rw [hread] at ih
    simp [chainTail, hgoes, ih]
  | case2 sign word rest hgoes =>
    simp [chainTail, hgoes]
  | case3 words hshort =>
    rcases words with _ | ⟨sign, _ | ⟨word, rest⟩⟩
    · simp [chainTail]
    · simp [chainTail]
    · exact absurd rfl (hshort sign word rest)

/-- A chain is read with the same names. -/
theorem chain?_bare (methods : Bool) :
    chain? methods (words.map Token.bare) =
      (chain? methods words).map (Prod.map id (List.map Token.bare)) := by
  cases words with
  | nil => rfl
  | cons word rest =>
    simp only [List.map_cons, chain?, Word.isName_bare, chainTail_bare, Token.text_bare]
    split <;> rfl

/-- A constructor ends at the same word. -/
theorem afterTable_bare (openBraces : Nat) :
    afterTable openBraces (words.map Token.bare) =
      (afterTable openBraces words).map Token.bare := by
  fun_induction afterTable openBraces words with
  | case1 => rfl
  | case2 openBraces word rest hopen ih => simp [afterTable, hopen, ih]
  | case3 openBraces word rest hopen hclose hlast => simp [afterTable, hopen, hclose, hlast]
  | case4 openBraces word rest hopen hclose hlast ih => simp [afterTable, hopen, hclose, hlast, ih]
  | case5 openBraces word rest hopen hclose ih => simp [afterTable, hopen, hclose, ih]

/-- An expression ends at the same word. -/
theorem afterExpression_bare (previous : Option Word) (depth : Nat) :
    afterExpression (previous.map Token.bare) depth (words.map Token.bare) =
      (afterExpression previous depth words).map Token.bare := by
  have hstops : ∀ (previous : Option Word) (word : Word),
      (previous.map Token.bare).any (stopsExpression · word.bare) =
        previous.any (stopsExpression · word) := by
    rintro (_ | previous) word
    · rfl
    · exact stopsExpression_bare previous word
  induction words generalizing previous depth with
  | nil => rfl
  | cons word rest ih =>
    have hword := ih (some word)
    rw [Option.map_some] at hword
    simp only [List.map_cons, afterExpression, Word.isSign_bare, hstops, hword]
    split <;> try rfl
    split <;> split <;> simp

/-- A value is read the same. -/
theorem readValue_bare :
    readValue (words.map Token.bare) = (readValue words).map id (List.map Token.bare) := by
  have hopen : (words.map Token.bare).head?.any (Word.isSign · "\x7b") =
      words.head?.any (Word.isSign · "\x7b") := by
    cases words <;> simp
  have hread : Constructor.read (words.map Token.bare).tail =
      (Constructor.read words.tail).map id (List.map Token.bare) := by
    rw [← List.map_tail]
    exact Constructor.membersFrom_bare _ _ _ ⟨.operator, ['\x7b']⟩ _
  have hbehind := afterExpression_bare words none 0
  rw [Option.map_none] at hbehind
  rw [readValue, readValue, hopen, hread, afterTable_bare, List.head?_map, endsExpression_bare,
    chain?_bare, hbehind]
  generalize (words.head?.any (Word.isSign · "\x7b") &&
    endsExpression (afterTable 0 words).head?) = table
  cases table with
  | true => rfl
  | false =>
    cases chain? false words with
    | none => rfl
    | some result =>
      obtain ⟨path, after⟩ := result
      cases hends : endsExpression after.head? <;> simp [Option.filter_some, hends]

/-- So are the values of a list. -/
theorem values_bare (count : Nat) : values count (words.map Token.bare) = values count words := by
  induction count generalizing words with
  | zero => rfl
  | succ count ih =>
    cases words with
    | nil => rfl
    | cons word rest =>
      have hread := readValue_bare (word :: rest)
      rw [List.map_cons] at hread
      rw [List.map_cons, values.eq_def, values.eq_def (count + 1)]
      simp only [hread]
      obtain ⟨value, _ | ⟨sign, behind⟩⟩ := readValue (word :: rest)
      · rfl
      · simp [ih]

/-! ## Statements -/

/-- An attribute is skipped up to the same word. -/
theorem skipAttribute_bare :
    skipAttribute (words.map Token.bare) = (skipAttribute words).map Token.bare := by
  rcases words with _ | ⟨less, _ | ⟨name, _ | ⟨greater, rest⟩⟩⟩ <;> simp [skipAttribute]
  split <;> simp

/-- A declaration has the same names. -/
theorem localNames_bare :
    localNames (words.map Token.bare) = (localNames words).map id (List.map Token.bare) := by
  fun_induction localNames words with
  | case1 => simp [localNames]
  | case2 word rest hname hskip =>
    rw [List.map_cons, localNames_cons (by simpa using hname), skipAttribute_bare, hskip]
    simp
  | case3 word rest hname sign more hskip hcomma names after hread ih =>
    rw [List.map_cons, localNames_cons (by simpa using hname), skipAttribute_bare, hskip]
    simp [hcomma, ih, hread]
  | case4 word rest hname sign more hskip hcomma =>
    rw [List.map_cons, localNames_cons (by simpa using hname), skipAttribute_bare, hskip]
    simp [hcomma]
  | case5 word rest hname =>
    rw [List.map_cons, localNames.eq_def]
    simp [hname]

/-- A header has the same parameters. -/
theorem parameters_bare :
    parameters (words.map Token.bare) = (parameters words).map id (List.map Token.bare) := by
  induction words with
  | nil => rfl
  | cons word rest ih =>
    simp only [List.map_cons, parameters, Word.isSign_bare, Word.isName_bare, ih, Token.text_bare]
    split <;> rfl

/-- A header enters the same names. -/
theorem header_bare :
    header (words.map Token.bare) = (header words).map id (List.map Token.bare) := by
  unfold header
  rw [chain?_bare]
  cases chain? true words with
  | none =>
    cases words with
    | nil => rfl
    | cons sign rest =>
      simp only [Option.map_none, List.map_cons, Word.isSign_bare, parameters_bare]
      split <;> rfl
  | some result =>
    obtain ⟨path, _ | ⟨sign, rest⟩⟩ := result
    · rfl
    · simp only [Option.map_some, Prod.map, List.map_cons, Word.isSign_bare, parameters_bare]
      split <;> rfl

/-- A declaration enters the same names. -/
theorem declaration_bare :
    declaration (words.map Token.bare) = (declaration words).map id (List.map Token.bare) := by
  have hfunction : (words.map Token.bare).head?.any (Word.isKeyword · "function") =
      words.head?.any (Word.isKeyword · "function") := by
    cases words <;> simp
  rw [declaration, declaration, hfunction, ← List.map_tail, header_bare, localNames_bare]
  cases words.head?.any (Word.isKeyword · "function") with
  | true => rfl
  | false =>
    obtain ⟨names, _ | ⟨sign, rest⟩⟩ := localNames words
    · rfl
    · cases hequals : sign.isSign "=" <;> simp [hequals, values_bare]

/-- A loop enters the same names. -/
theorem loop_bare : loop (words.map Token.bare) = (loop words).map id (List.map Token.bare) := by
  induction words with
  | nil => rfl
  | cons word rest ih =>
    simp only [List.map_cons, loop, Word.isSign_bare, Word.isKeyword_bare, Word.isName_bare, ih,
      Token.text_bare]
    split <;> rfl

/-- An assignment has the same targets. -/
theorem targets?_bare (steps : Nat) :
    targets? steps (words.map Token.bare) =
      (targets? steps words).map (Prod.map id (List.map Token.bare)) := by
  induction steps generalizing words with
  | zero => rfl
  | succ steps ih =>
    rw [targets?, targets?, chain?_bare]
    cases chain? false words with
    | none => rfl
    | some result =>
      obtain ⟨path, _ | ⟨sign, rest⟩⟩ := result
      · rfl
      · cases hequals : sign.isSign "=" with
        | true => simp [hequals]
        | false =>
          cases hcomma : sign.isSign "," with
          | true => cases htargets : targets? steps rest <;> simp [hequals, hcomma, ih, htargets]
          | false => simp [hequals, hcomma]

/-- An assignment enters the same chains. -/
theorem assignment?_bare :
    assignment? (words.map Token.bare) =
      (assignment? words).map (Prod.map id (List.map Token.bare)) := by
  rw [assignment?, assignment?, List.length_map, targets?_bare]
  cases targets? words.length words <;> simp [values_bare]

/-- A statement is read the same, from whichever word of the text it begins. -/
theorem statement_bare (previous : Option Word) (word : Word) (rest : List Word) :
    statement (previous.map Token.bare) word.bare (rest.map Token.bare) =
      (statement previous word rest).map id (List.map Token.bare) := by
  have hbehind : (previous.map Token.bare).any (fun p => Word.isSign p "." || Word.isSign p ":") =
      previous.any (fun p => p.isSign "." || p.isSign ":") := by
    cases previous <;> simp
  have hassign := assignment?_bare (word :: rest)
  rw [List.map_cons] at hassign
  simp only [statement, Word.isKeyword_bare, Word.isName_bare, hbehind, declaration_bare,
    header_bare, loop_bare, hassign]
  split <;> try rfl
  split <;> try rfl
  split <;> try rfl
  split
  · cases assignment? (word :: rest) <;> rfl
  · rfl

/-- What words bind is told by bare words. -/
theorem collectFrom_bare (braces : Nat) (previous : Option Word) :
    collectFrom braces (previous.map Token.bare) (words.map Token.bare) =
      collectFrom braces previous words := by
  fun_induction collectFrom braces previous words with
  | case1 => simp [collectFrom]
  | case2 braces previous word rest hopen ih =>
    rw [List.map_cons, collectFrom.eq_def]
    simpa [hopen] using ih
  | case3 braces previous word rest hopen hclose ih =>
    rw [List.map_cons, collectFrom.eq_def]
    simpa [hopen, hclose] using ih
  | case4 braces previous word rest hopen hclose hinside ih =>
    rw [List.map_cons, collectFrom.eq_def]
    simpa [hopen, hclose, hinside] using ih
  | case5 braces previous word rest hopen hclose hinside found after hread more ih =>
    have hlast : (word.bare :: (rest.map Token.bare).take more).getLast? =
        ((word :: rest.take more).getLast?).map Token.bare := by
      rw [← List.map_take, ← List.map_cons, List.getLast?_map]
    rw [List.map_cons, collectFrom.eq_def]
    simp only [Word.isSign_bare, hopen, hclose, hinside, if_false, Bool.false_eq_true,
      statement_bare, hread, Prod.map, id, List.length_map]
    rw [hlast, ← List.map_drop, ih]

end Binding

end LuaAssist

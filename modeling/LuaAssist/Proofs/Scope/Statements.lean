import LuaAssist.Proofs.Scope.Quiet

/-!
# Written statements

What is collected where a program is written: statement by statement what the statement binds,
and nothing else. From this, whoever asks for the bindings above a line with a program on the
lines above it gets what the program binds.
-/

namespace LuaAssist

open Binding
open Word (sign keyword)

namespace Program

variable {after rest : List Word}

/-! ## Lists of names -/

/-- No attribute is skipped where none is opened. -/
theorem skipAttribute_of_head (hafter : ∀ word ∈ after.head?, word.isSign "<" = false) :
    skipAttribute after = after := by
  rcases after with _ | ⟨less, _ | ⟨name, _ | ⟨greater, rest⟩⟩⟩ <;>
    simp_all [skipAttribute]

/-- The names of a declaration, up to what is neither a comma nor an attribute. -/
theorem localNames_words (names : Names)
    (hafter : ∀ word ∈ after.head?, word.isSign "," = false ∧ word.isSign "<" = false) :
    localNames (names.words "," ++ after) = (names.texts, after) := by
  obtain ⟨first, more⟩ := names
  induction more generalizing first with
  | nil =>
    rw [Names.words, List.flatMap_nil, List.singleton_append, localNames_cons first.isName_word,
      skipAttribute_of_head fun word hword => (hafter word hword).2]
    cases after with
    | nil => rfl
    | cons word rest =>
      simp [hafter word rfl]
      rfl
  | cons name more ih =>
    rw [Names.words_cons, List.cons_append, List.cons_append, localNames_cons first.isName_word,
      skipAttribute_of_head (by simp)]
    simp [ih]
    rfl

/-- Parameters bind their names. -/
theorem parameters_words (names : Names) (rest : List Word) :
    parameters (names.words "," ++ rest) =
      (bindNames names.texts ++ (parameters rest).1, (parameters rest).2) := by
  obtain ⟨first, more⟩ := names
  induction more generalizing first with
  | nil =>
    simp [Names.words, parameters, Names.texts, bindNames]
    rfl
  | cons name more ih =>
    rw [Names.words_cons, List.cons_append, List.cons_append]
    simp [parameters, ih]
    rfl

/-- The variables of a loop are bound. -/
theorem loop_words (names : Names) (rest : List Word) :
    loop (names.words "," ++ rest) =
      (bindNames names.texts ++ (loop rest).1, (loop rest).2) := by
  obtain ⟨first, more⟩ := names
  induction more generalizing first with
  | nil =>
    simp [Names.words, loop, Names.texts, bindNames]
    rfl
  | cons name more ih =>
    rw [Names.words_cons, List.cons_append, List.cons_append]
    simp [loop, ih]
    rfl

/-! ## What is bound -/

/-- Values that are given in turn are given by their place. -/
theorem assign_take (paths : List Chain) (values : List Value) :
    assign paths (values.take paths.length) = bindEach paths values := by
  induction paths generalizing values with
  | nil => rfl
  | cons path paths ih =>
    cases values with
    | nil =>
      have hrest := ih []
      simp only [List.take_nil] at hrest ⊢
      rw [assign, hrest]
      simp [bindEach, List.mapIdx_cons]
      rfl
    | cons value values =>
      rw [List.length_cons, List.take_succ_cons, assign, ih]
      simp [bindEach, List.mapIdx_cons]

/-- A function's name is bound, and its parameters. -/
theorem header_words (path : Names) (method : Option Name) (written : Option Names)
    (after : List Word) :
    header (headerWords path method written ++ after) =
      (.plain (path.texts ++ (method.map Name.text).toList) ::
        bindNames ((written.map Names.texts).getD []), after) := by
  have hparameters : parameters ((written.map (Names.words ",")).getD [] ++ sign ")" :: after) =
      (bindNames ((written.map Names.texts).getD []), after) := by
    have hclose : parameters (sign ")" :: after) = ([], after) := by simp [parameters]
    cases written with
    | none => exact hclose
    | some names => simp [parameters_words, hclose]
  have hmethod : ∀ behind, chainTail true
      ((method.map fun name => [sign ":", name.word]).getD [] ++ sign "(" :: behind) =
        ((method.map Name.text).toList, sign "(" :: behind) := by
    intro behind
    have hstop : chainTail true (sign "(" :: behind) = ([], sign "(" :: behind) :=
      chainTail_of_head true (by simp)
    cases method with
    | none => exact hstop
    | some name =>
      simp [chainTail, hstop]
      rfl
  simp only [headerWords, List.append_assoc, List.cons_append, List.nil_append]
  rw [header, chain?_path, hmethod]
  simp [hparameters]

/-- A declaration binds its names. -/
theorem declaration_names (names : Names) (hafter : Begins after) :
    declaration (names.words "," ++ after) =
      (bindEach (names.texts.map fun name => [name]) [], after) := by
  have hnames : localNames (names.words "," ++ after) = (names.texts, after) := by
    refine localNames_words names fun word hword => ?_
    have hsign := hafter.isSign_eq word hword
    exact ⟨hsign _ (by decide), hsign _ (by decide)⟩
  have hfirst : (names.words "," ++ after).head?.any (Word.isKeyword · "function") = false := by
    simp [Names.words]
  have hbound := assign_take (names.texts.map fun name => [name]) []
  rw [List.take_nil] at hbound
  rw [declaration, hfirst, hnames]
  cases after with
  | nil => simp [hbound]
  | cons word rest =>
    have hequals : word.isSign "=" = false := hafter.isSign_eq word rfl _ (by decide)
    simp [hbound, hequals]

/-- A declaration with values binds its names to them, and leaves the values. -/
theorem declaration_values (names : Names) (written : Expressions) (hafter : Begins after) :
    declaration (names.words "," ++ sign "=" :: (written.words ++ after)) =
      (bindEach (names.texts.map fun name => [name]) written.values, written.words ++ after) := by
  have hnames : localNames (names.words "," ++ sign "=" :: (written.words ++ after)) =
      (names.texts, sign "=" :: (written.words ++ after)) :=
    localNames_words names (by simp)
  have hfirst : (names.words "," ++ sign "=" :: (written.words ++ after)).head?.any
      (Word.isKeyword · "function") = false := by
    simp [Names.words]
  have hbound := assign_take (names.texts.map fun name => [name]) written.values
  rw [List.length_map] at hbound
  rw [declaration, hfirst, hnames]
  simp [values_words written _ hafter, hbound]

/-- The targets of an assignment, up to its equals sign. -/
theorem targets?_targetWords (first : Names) (more : List Names) (rest : List Word) {steps : Nat}
    (hsteps : more.length < steps) :
    targets? steps (targetWords first more ++ sign "=" :: rest) =
      some ((first :: more).map Names.texts, rest) := by
  induction more generalizing first steps with
  | nil =>
    obtain ⟨steps, rfl⟩ := Nat.exists_eq_succ_of_ne_zero (Nat.ne_of_gt hsteps)
    rw [targetWords, List.flatMap_nil, List.append_nil, targets?_path steps first (by simp)]
    simp
  | cons path more ih =>
    obtain ⟨steps, rfl⟩ := Nat.exists_eq_succ_of_ne_zero (Nat.ne_zero_of_lt hsteps)
    have hrest := ih path (Nat.lt_of_succ_lt_succ hsteps)
    have hwords : targetWords first (path :: more) ++ sign "=" :: rest =
        first.words "." ++ sign "," :: (targetWords path more ++ sign "=" :: rest) := by
      simp [targetWords]
    rw [hwords, targets?_path steps first (by simp)]
    simp [hrest]

/-- An assignment binds its targets to the values, and leaves the values. -/
theorem assignment?_words (first : Names) (more : List Names) (written : Expressions)
    (hafter : Begins after) :
    assignment? (targetWords first more ++ sign "=" :: (written.words ++ after)) =
      some (bindEach ((first :: more).map Names.texts) written.values, written.words ++ after) := by
  have hsteps : more.length <
      (targetWords first more ++ sign "=" :: (written.words ++ after)).length := by
    have hmore : more.length ≤ (more.flatMap fun path => sign "," :: path.words ".").length := by
      induction more with
      | nil => exact Nat.le_refl _
      | cons path more ih =>
        simp only [List.flatMap_cons, List.length_append, List.length_cons]
        omega
    simp only [targetWords, List.length_append, List.length_cons]
    omega
  have hbound := assign_take ((first :: more).map Names.texts) written.values
  rw [assignment?, targets?_targetWords first more _ hsteps]
  simp only [Option.bind_eq_bind, Option.bind_some, values_words written _ hafter, hbound]

/-- The last of some names. -/
theorem Names.exists_last (names : Names) (separator : String) :
    ∃ front last, names.words separator = front ++ [Name.word last] := by
  obtain ⟨first, more⟩ := names
  induction more generalizing first with
  | nil => exact ⟨[], first, rfl⟩
  | cons name more ih =>
    obtain ⟨front, last, hlast⟩ := ih name
    exact ⟨first.word :: sign separator :: front, last, by rw [Names.words_cons, hlast]; rfl⟩

/-- What a statement binds up to a word that is no separator, and what is collected behind it. -/
theorem collect_statement {word last : Word} {front after : List Word} {found : List Binding}
    (hopen : word.isSign "\x7b" = false) (hclose : word.isSign "\x7d" = false)
    (hlast : isAccessor last = false)
    (hfound : statement none word (front ++ last :: after) = (found, after)) :
    collect (word :: (front ++ last :: after)) = found ++ collect after := by
  have hwords : ∀ words, front ++ last :: words = (front ++ [last]) ++ words := by simp
  rw [hwords] at hfound ⊢
  rw [collect, collectFrom_statement hopen hclose hfound, collectFrom_previous]
  simp [List.getLast?_cons, hlast]

/-- What a statement binds up to its values, which bind nothing. -/
theorem collect_given {word : Word} {front : List Word} {found : List Binding}
    {values : Expressions} (hopen : word.isSign "\x7b" = false)
    (hclose : word.isSign "\x7d" = false)
    (hfound : statement none word (front ++ sign "=" :: (values.words ++ after)) =
      (found, values.words ++ after)) (hafter : Begins after) :
    collect (word :: (front ++ sign "=" :: (values.words ++ after))) = found ++ collect after := by
  have hvalues : collect (values.words ++ after) = collect after :=
    values.collect_words none hafter.stops
  rw [collect_statement hopen hclose (by simp [isAccessor]) hfound, hvalues]

/-- A value between keywords binds nothing. -/
theorem collect_loop (values : Expressions) {word : Word} (hname : word.isName = false)
    (hsign : ∀ text ∈ ["\x7b", "\x7d", ".", ":"], word.isSign text = false)
    (hkeyword : ∀ text ∈ ["local", "function", "for"], word.isKeyword text = false)
    (after : List Word) :
    collect (word :: (values.words ++ keyword "do" :: after)) = collect after := by
  have hdo : Begins (keyword "do" :: after) := .keyword (by decide) after
  calc collect (word :: (values.words ++ keyword "do" :: after))
      = collect (values.words ++ keyword "do" :: after) :=
        collectFrom_single none hname hsign hkeyword _
    _ = collect (keyword "do" :: after) := values.collect_words none hdo.stops
    _ = collect after := collectFrom_single none (by simp) (by simp) (by simp) after

/-- The header of a function binds the name of the function and its parameters. -/
theorem collect_function (isLocal : Bool) (path : Names) (method : Option Name)
    (parameters : Option Names) (after : List Word) :
    collect ((Statement.function isLocal path method parameters).words ++ after) =
      (Statement.function isLocal path method parameters).bindings ++ collect after := by
  have hfound := header_words path method parameters after
  obtain ⟨front, hfront⟩ : ∃ front, headerWords path method parameters = front ++ [sign ")"] :=
    ⟨_, by rw [headerWords, ← List.cons_append, ← List.append_assoc, ← List.append_assoc]⟩
  rw [hfront, List.append_assoc, List.singleton_append] at hfound
  have hparen : isAccessor (sign ")") = false := by simp [isAccessor]
  cases isLocal with
  | false =>
    have hwords : (Statement.function false path method parameters).words ++ after =
        keyword "function" :: (front ++ sign ")" :: after) := by
      simp [Statement.words, hfront]
    rw [hwords, collect_statement (by simp) (by simp) hparen (by simpa [statement] using hfound)]
    rfl
  | true =>
    have hwords : (Statement.function true path method parameters).words ++ after =
        keyword "local" :: ((keyword "function" :: front) ++ sign ")" :: after) := by
      simp [Statement.words, hfront]
    rw [hwords, collect_statement (by simp) (by simp) hparen
      (by simpa [statement, declaration] using hfound)]
    rfl

/-- A statement binds what it is said to bind, and nothing of it is taken for another. -/
theorem Statement.collect_words (statement : Statement) (hafter : Begins after) :
    collect (statement.words ++ after) = statement.bindings ++ collect after := by
  cases statement with
  | declare names values =>
    cases values with
    | none =>
      obtain ⟨front, last, hlast⟩ := names.exists_last ","
      have hfound := declaration_names names hafter
      simp only [Statement.words, hlast, List.cons_append, List.append_assoc,
        List.nil_append] at hfound ⊢
      exact collect_statement (by simp) (by simp) (by simp [isAccessor])
        (by simpa [statement, Statement.bindings] using hfound)
    | some values =>
      have hfound := declaration_values names values hafter
      simp only [Statement.words, List.cons_append, List.append_assoc]
      exact collect_given (by simp) (by simp)
        (by simpa [statement, Statement.bindings] using hfound) hafter
  | assign first more values =>
    have hfound := assignment?_words first more values hafter
    obtain ⟨front, hfront⟩ : ∃ front, targetWords first more = first.first.word :: front :=
      ⟨_, rfl⟩
    rw [hfront, List.cons_append] at hfound
    simp only [Statement.words, hfront, List.cons_append, List.append_assoc]
    refine collect_given (by simp) (by simp) ?_ hafter
    simp only [statement, Name.isKeyword_word, Name.isName_word, Bool.false_eq_true, if_false,
      Option.any_none, Bool.not_false, Bool.and_self, if_true, hfound, Option.getD_some]
    rfl
  | function isLocal path method parameters =>
    exact collect_function isLocal path method parameters after
  | forIn names source =>
    obtain ⟨front, last, hlast⟩ := names.exists_last ","
    have hfound := loop_words names (keyword "in" :: (source.words ++ keyword "do" :: after))
    have hin : loop (keyword "in" :: (source.words ++ keyword "do" :: after)) =
        ([], keyword "in" :: (source.words ++ keyword "do" :: after)) := by
      simp [loop]
    simp only [Statement.words, hin, hlast, List.cons_append, List.append_assoc,
      List.nil_append, List.append_nil] at hfound ⊢
    rw [collect_statement (by simp) (by simp) (by simp [isAccessor])
      (by simpa [statement] using hfound)]
    exact congrArg _ (collect_loop (.last source) (by simp) (by simp) (by simp) after)
  | forTo name start stop =>
    have hfound : statement none (keyword "for")
        ([] ++ name.word :: sign "=" :: ((Expressions.more start (.last stop)).words ++
          keyword "do" :: after)) =
        (bindNames [name.text], sign "=" :: ((Expressions.more start (.last stop)).words ++
          keyword "do" :: after)) := by
      simp [statement, loop, bindNames]
      rfl
    simp only [Statement.words, List.cons_append, List.append_assoc, List.nil_append]
    exact (collect_statement (by simp) (by simp) (by simp [isAccessor]) hfound).trans
      (congrArg _ (collect_loop _ (by simp) (by simp) (by simp) after))
  | done => exact collectFrom_single none (by simp) (by simp) (by simp) after
  | call path arguments =>
    rw [Statement.words, List.append_assoc, collect,
      collectFrom_path none path fun steps => targets?_call steps path arguments after, collect,
      arguments.collect_words]
    rfl

/-- A program begins with a name or a keyword. -/
theorem begins_words (program : Program) : Begins program.words := by
  cases program with
  | nil => exact .nil
  | cons statement program =>
    cases statement with
    | declare names values => cases values <;> exact .keyword (by decide) _
    | assign first more values => exact .name first.first _
    | function isLocal path method parameters => cases isLocal <;> exact .keyword (by decide) _
    | forIn names source => exact .keyword (by decide) _
    | forTo name start stop => exact .keyword (by decide) _
    | done => exact .keyword (by decide) _
    | call path arguments => exact .name path.first _

/-- The words of a program bind what its statements bind, one after the other. -/
theorem collect_words (program : Program) : collect program.words = program.bindings := by
  induction program with
  | nil => simp [words, bindings, collect, collectFrom]
  | cons statement program ih =>
    have hstep := statement.collect_words (begins_words program)
    rw [ih] at hstep
    exact hstep

/-- Above the line of an offset a program is written: what is collected for the offset is what the
program binds. -/
theorem collect_written {program : Program} {text : Text} {offset : Nat}
    (hwritten : Word.Written program.words
      (text.take (Document.lineStart text (Document.lineOf text offset)))) :
    collect (Word.before text offset) = program.bindings := by
  have hwords := Word.before_of_written (balanced_words program).stands hwritten
  have hbare := collectFrom_bare (Word.before text offset) 0 none
  rw [hwords, Option.map_none] at hbare
  calc collect (Word.before text offset)
      = collect program.words := hbare.symm
    _ = program.bindings := collect_words program

/-- Above the line of an offset stands a program whose words have blanks between them: what is
collected for the offset is what the program binds, in order and nothing else. -/
theorem collect_before {program : Program} {text : Text} {offset : Nat}
    (hspaced : Spaced (program.words.map Token.text)
      (text.take (Document.lineStart text (Document.lineOf text offset)))) :
    collect (Word.before text offset) = program.bindings :=
  collect_written (.of_spaced hspaced)

/-- A declaration of a table and of an alias, and the header of a method. -/
def sample : Program :=
  let t : Name := ⟨['t'], by decide, by decide, by decide⟩
  let u : Name := ⟨['u'], by decide, by decide, by decide⟩
  let k : Literal := ⟨'"', ['k'], by decide, by decide, by decide⟩
  let one : Numeral := ⟨none, ['1'], [], by simp, by decide, by decide, by decide⟩
  let fields : Fields := .more (.named u) (.table (.last (.named t) (.number one))) .comma
    (.more (.quoted k (by decide)) (.constant .nil) .semicolon (.last .positional (.text k)))
  [.declare ⟨t, [u]⟩ (some (.more (.table fields) (.last (.chain ⟨t, [u]⟩)))),
    .function false ⟨t, []⟩ (some u) (some ⟨u, []⟩), .done]

/-- The program on two lines, and a line below them. -/
def sampleText : Text :=
  ("local t , u = \x7b u = \x7b t = 1 \x7d , [ \"k\" ] = nil ; \"k\" \x7d , t . u\n" ++
    "function t : u ( u )\tend\nt .").toList

/-- What is collected on the line below that program. -/
theorem collect_before_sample :
    Spaced (sample.words.map Token.text)
        (sampleText.take (Document.lineStart sampleText (Document.lineOf sampleText 90))) ∧
      collect (Word.before sampleText 90) =
        [⟨[['t']], ⟨[[['u']], [['u'], ['t']], [['k']]], none⟩⟩,
          ⟨[['u']], ⟨[], some [['t'], ['u']]⟩⟩, .plain [['t'], ['u']], .plain [['u']]] := by
  have hspaced : Spaced (sample.words.map Token.text)
      (sampleText.take (Document.lineStart sampleText (Document.lineOf sampleText 90))) :=
    .of_isSpaced (by decide +kernel)
  have hbindings : sample.bindings =
      [⟨[['t']], ⟨[[['u']], [['u'], ['t']], [['k']]], none⟩⟩,
        ⟨[['u']], ⟨[], some [['t'], ['u']]⟩⟩, .plain [['t'], ['u']], .plain [['u']]] := by
    decide +kernel
  exact ⟨hspaced, (collect_before hspaced).trans hbindings⟩

/-- Programs that are not read so: the empty key of a field gives no member, a key loses quotes
at its ends, and a line that ends within a short string is read on its own. -/
theorem collect_before_misses :
    collect (Word.before "local t = \x7b [ \"\" ] = 1 \x7d\n".toList 25) ≠
        [⟨[['t']], ⟨[[[]]], none⟩⟩] ∧
      collect (Word.before "local t = \x7b [ \"\x27x\" ] = 1 \x7d\n".toList 27) ≠
        [⟨[['t']], ⟨[[['\'', 'x']]], none⟩⟩] ∧
      collect (Word.before "local a = \"\u2028 b = 1 \"\n".toList 21) ≠ [.plain [['a']]] := by
  decide +kernel

end Program

end LuaAssist

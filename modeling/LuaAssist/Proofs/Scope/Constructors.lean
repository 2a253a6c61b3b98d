import LuaAssist.Proofs.Scope.Members
import LuaAssist.Proofs.Scope.Program

/-!
# Constructors as words

The words of a table constructor, told by its fields: keys that are names, texts or numbers, and
values that are numbers, strings, constants, chains, calls and constructors. Reading these words
gives each key, and below it the members of every constructor that is assigned to it.
-/

namespace LuaAssist

namespace Scope

/-- A chain that was added is known. -/
theorem contains_add (scope : Scope) (chain : Chain) : (scope.add chain).contains chain = true := by
  by_cases hknown : scope.contains chain = true
  · rw [add_of_contains hknown, hknown]
  · rw [add, if_neg hknown]
    simp [contains]

/-- To enter a name alone is to add it. -/
theorem enter_singleton (scope : Scope) (name : Text) : scope.enter [name] = scope.add [name] := rfl

/-- Members below one name, when nothing is closed. -/
theorem absorb_singleton (scope : Scope) (name : Text) (members : List Chain) :
    scope.absorb [name] members [] = (members.map (name :: ·)).foldl add scope := by
  have hopen : (members.filter fun chain => !isSealed [] [name] chain) = members := by
    rw [List.filter_eq_self]
    intro chain _
    simp [isSealed]
  rw [absorb_eq_foldl_add, hopen]
  rfl

/-- Chains that are added to the empty scope stand in it once, in the order in which they came. -/
theorem foldl_add_empty {chains : List Chain} (hchains : ∀ chain ∈ chains, chain ≠ []) :
    chains.foldl add .empty = ⟨chains.eraseDups⟩ := by
  induction chains using List.reverseRecOn with
  | nil => rfl
  | append_singleton chains chain ih =>
    rw [List.forall_mem_append] at hchains
    have hne : chain ≠ [] := by simpa using hchains.2
    rw [List.foldl_append, ih hchains.1, List.foldl_cons, List.foldl_nil, List.eraseDups_append]
    by_cases hmem : chain ∈ chains <;>
      simp [add, contains, hne, List.removeAll, hmem, List.eraseDups_cons]

end Scope

namespace Constructor

/-! ## The words of constructors -/

open Word (sign)

/-- A word that is a name. -/
structure Name where
  word : Word
  isName : word.isName = true

/-- A word that is a value by itself: a number, a string or a constant. -/
structure Atom where
  word : Word
  isAtom : word.kind = .number ∨ word.kind = .string ∨
    word ∈ ["nil", "true", "false"].map Word.keyword

/-- A name that is reached by a point, or by the colon of a method. -/
structure Link where
  isMethod : Bool
  name : Name

/-- A name, and names that are reached from it. -/
structure Reference where
  first : Name
  more : List Link

/-- The words of a reference. -/
def Reference.words (reference : Reference) : List Word :=
  reference.first.word :: reference.more.flatMap fun link =>
    [sign (if link.isMethod then ":" else "."), link.name.word]

/-- A text between quotes that it neither begins nor ends with. -/
structure Quoted where
  quote : Char
  content : Text
  isQuote : quote = '"' ∨ quote = '\''
  edges : ∀ c ∈ content.head?.toList ++ content.getLast?.toList, c ≠ '"' ∧ c ≠ '\''

/-- A quoted text as a word. -/
def Quoted.word (literal : Quoted) : Word :=
  ⟨.string, literal.quote :: (literal.content ++ [literal.quote])⟩

/-- What is written in front of the value of a field. -/
inductive Label where
  | positional
  | named (name : Name)
  | quoted (literal : Quoted)
  | numbered (number : Word) (isNumber : number.kind = .number)

/-- The words of a label, up to the equals sign. -/
def Label.words : Label → List Word
  | .positional => []
  | .named name => [name.word, sign "="]
  | .quoted literal => [sign "[", literal.word, sign "]", sign "="]
  | .numbered number _ => [sign "[", number, sign "]", sign "="]

/-- The key that a label gives: none for a number or an empty text. -/
def Label.key? : Label → Option Text
  | .positional | .numbered _ _ => none
  | .named name => some name.word.text
  | .quoted literal => if literal.content = [] then none else some literal.content

/-- The chains that a field gives whose value has the given members. -/
def Label.paths (label : Label) (members : List Chain) : List Chain :=
  match label.key? with
  | none => []
  | some key => [key] :: members.map (key :: ·)

mutual

/-- The value of a field, or an argument. -/
inductive Content where
  | atom (atom : Atom)
  | chain (reference : Reference)
  | call (reference : Reference) (arguments : Arguments)
  | table (fields : Fields)

/-- Values with commas between them. A comma may follow the last of them. -/
inductive Contents where
  | none
  | last (value : Content)
  | more (value : Content) (rest : Contents)

/-- The arguments of a call: a single string or constructor needs no parentheses. -/
inductive Arguments where
  | list (values : Contents)
  | string (literal : Word) (isString : literal.kind = .string)
  | table (fields : Fields)

/-- The fields of a table constructor. A separator may follow the last of them. -/
inductive Fields where
  | none
  | last (label : Label) (value : Content)
  | more (label : Label) (value : Content) (separator : Program.Separator) (rest : Fields)

end

mutual

/-- The words of a value. -/
def Content.words : Content → List Word
  | .atom atom => [atom.word]
  | .chain reference => reference.words
  | .call reference arguments => reference.words ++ arguments.words
  | .table fields => sign "\x7b" :: (fields.words ++ [sign "\x7d"])

/-- The words of values with commas between them. -/
def Contents.words : Contents → List Word
  | .none => []
  | .last value => value.words
  | .more value rest => value.words ++ sign "," :: rest.words

/-- The words of arguments. -/
def Arguments.words : Arguments → List Word
  | .list values => sign "(" :: (values.words ++ [sign ")"])
  | .string literal _ => [literal]
  | .table fields => sign "\x7b" :: (fields.words ++ [sign "\x7d"])

/-- The words of fields. -/
def Fields.words : Fields → List Word
  | .none => []
  | .last label value => label.words ++ value.words
  | .more label value separator rest =>
    label.words ++ (value.words ++ separator.word :: rest.words)

end

mutual

/-- The members that a value is known to have, each once. -/
def Content.members : Content → List Chain
  | .atom _ | .chain _ | .call _ _ => []
  | .table fields => fields.paths.eraseDups

/-- The members that fields give, in their order. -/
def Fields.paths : Fields → List Chain
  | .none => []
  | .last label value => label.paths value.members
  | .more label value _ rest => label.paths value.members ++ rest.paths

end

/-! ## Single words -/

/-- A name is none of the signs that a constructor is told by. -/
theorem Name.isSign_eq_false (name : Name) {text : String}
    (htext : text ∈ ["\x7b", "\x7d", "[", "=", ",", ";"]) : name.word.isSign text = false := by
  have hletter : ∀ text ∈ ["\x7b", "\x7d", "[", "=", ",", ";"],
      (text.toList.head?.any fun c => Text.isLetter c || c = '_') = false := by decide
  rw [Bool.eq_false_iff]
  intro heq
  simp only [Word.isSign, Bool.and_eq_true, decide_eq_true_eq] at heq
  have hname := name.isName
  rw [Word.isName, heq.1.1, hletter text htext, Bool.and_false] at hname
  cases hname

/-- An atom is no name and no sign. -/
theorem Atom.isOther (atom : Atom) : atom.word.isName = false ∧
    ∀ text ∈ ["\x7b", "\x7d", "["], atom.word.isSign text = false := by
  obtain ⟨word, hnumber | hstring | hconstant⟩ := atom
  · simp [Word.isName, Word.isSign, hnumber, TokenKind.isName]
  · simp [Word.isName, Word.isSign, hstring, TokenKind.isName]
  · simp only [List.map_cons, List.map_nil, List.mem_cons, List.not_mem_nil, or_false] at hconstant
    rcases hconstant with rfl | rfl | rfl <;> simp

/-- A literal between quotes that are not part of it. -/
theorem unquoted_word (literal : Quoted) : unquoted literal.word.text = literal.content := by
  unfold unquoted
  generalize htest : (fun c : Char => decide (c = '"') || decide (c = '\'')) = test
  have hquote : test literal.quote = true := by
    rw [← htest]
    rcases literal.isQuote with hquote | hquote <;> rw [hquote] <;> rfl
  have hplain : ∀ c ∈ literal.content.head?.toList ++ literal.content.getLast?.toList,
      test c = false := by
    intro c hc
    rw [← htest]
    simpa using literal.edges c hc
  dsimp only
  rw [Quoted.word, List.dropWhile_cons_of_pos hquote]
  generalize literal.content = content at hplain
  rcases List.eq_nil_or_concat content with rfl | ⟨front, last, rfl⟩
  · simp [hquote]
  · have hlast : test last = false := hplain last (by simp)
    have hfirst : (front ++ [last] ++ [literal.quote]).dropWhile test =
        front ++ [last] ++ [literal.quote] := by
      cases front with
      | nil => simp [hlast]
      | cons c front =>
        have hc : test c = false := hplain c (by simp)
        simp [hc]
    rw [List.concat_eq_append] at *
    rw [hfirst, List.reverse_append, List.reverse_singleton, List.singleton_append,
      List.dropWhile_cons_of_pos hquote, List.reverse_append, List.reverse_singleton,
      List.singleton_append, List.dropWhile_cons_of_neg (by simp [hlast])]
    simp

/-! ## Steps of the reader -/

variable {pending : Option Text} {frame : Frame} {outer : List Frame} {previous word : Word}
  {rest : List Word}

/-- A word that begins no field. -/
theorem fieldKey?_of_other (hname : word.isName = false) (hbracket : word.isSign "[" = false)
    (rest : List Word) : fieldKey? word rest = none := by
  cases rest <;> simp [fieldKey?, hname, hbracket]

/-- A word that begins no field and is no brace is passed over. -/
theorem membersFrom_skip (hopen : word.isSign "\x7b" = false) (hclose : word.isSign "\x7d" = false)
    (hkey : fieldKey? word rest = none) :
    membersFrom pending frame outer previous (word :: rest) =
      membersFrom none frame outer word rest := by
  rw [membersFrom.eq_def]
  simp [hopen, hclose, hkey]

/-- A sign that is no brace and opens no key is passed over. -/
theorem membersFrom_sign {text : String} (htext : text ∉ ["\x7b", "\x7d", "["]) :
    membersFrom pending frame outer previous (Word.sign text :: rest) =
      membersFrom none frame outer (Word.sign text) rest := by
  simp only [List.mem_cons, List.not_mem_nil, or_false, not_or] at htext
  exact membersFrom_skip (by simpa using htext.1) (by simpa using htext.2.1)
    (fieldKey?_of_other (by simp) (by simpa using htext.2.2) rest)

/-- The key of a field. -/
theorem membersFrom_key {key : Text} {more : Nat} (hopen : word.isSign "\x7b" = false)
    (hclose : word.isSign "\x7d" = false) (hprevious : precedesField previous = true)
    (hkey : fieldKey? word rest = some (key, more)) :
    membersFrom pending frame outer previous (word :: rest) =
      membersFrom (some key) (frame.touch key) outer ⟨.operator, ['=']⟩ (rest.drop more) := by
  rw [membersFrom.eq_def]
  simp [hopen, hclose, hprevious, hkey]

/-- In front of a sign that opens no key it does not matter what comes before. -/
theorem membersFrom_previous {text : String} (htext : text ≠ "[") (pending : Option Text)
    (frame : Frame) (outer : List Frame) (previous other : Word) (rest : List Word) :
    membersFrom pending frame outer previous (Word.sign text :: rest) =
      membersFrom pending frame outer other (Word.sign text :: rest) := by
  have hkey : fieldKey? (Word.sign text) rest = none :=
    fieldKey?_of_other (by simp) (by simpa using htext) rest
  rw [membersFrom.eq_def, membersFrom.eq_def pending frame outer other]
  simp only [hkey, ite_self]

/-- A frame that takes over nothing but what it knows. -/
theorem close_nil (hpending : ∀ key ∈ pending, frame.members.contains [key] = true) :
    Frame.close ⟨pending, ⟨[]⟩⟩ frame = frame := by
  cases pending with
  | none => rfl
  | some key =>
    have hknown := Scope.add_of_contains (hpending key rfl)
    simp only [Frame.close, Scope.enter_singleton, hknown, Scope.absorb_singleton]
    rfl

/-- A field with a key adds the key and the members of its value below it. -/
theorem close_touch (key : Text) (members : List Chain) :
    Frame.close ⟨some key, ⟨members⟩⟩ (frame.touch key) =
      { frame with
        members := ([key] :: members.map (key :: ·)).foldl Scope.add frame.members } := by
  have htwice : (frame.members.add [key]).add [key] = frame.members.add [key] :=
    Scope.add_of_contains (Scope.contains_add _ _)
  simp only [Frame.close, Frame.touch, Scope.enter_singleton, htwice, Scope.absorb_singleton,
    List.foldl_cons]

/-! ## Values -/

variable {text : String} {members : List Chain}

/-- Names that are reached from each other give no members. -/
theorem membersFrom_reference (reference : Reference)
    (hrest : ∀ next ∈ rest.head?, next.isSign "=" = false) : ∃ last : Word,
    membersFrom pending frame outer previous (reference.words ++ rest) =
      membersFrom none frame outer last rest := by
  obtain ⟨first, more⟩ := reference
  induction more generalizing first pending previous with
  | nil =>
    have hkey : fieldKey? first.word rest = none := by
      have hbracket : first.word.isSign "[" = false := first.isSign_eq_false (by simp)
      cases rest with
      | nil => rfl
      | cons next rest => simp [fieldKey?, hrest next rfl, hbracket]
    refine ⟨first.word, ?_⟩
    rw [Reference.words, List.flatMap_nil, List.singleton_append,
      membersFrom_skip (first.isSign_eq_false (by simp)) (first.isSign_eq_false (by simp)) hkey]
  | cons link more ih =>
    have hlink : (if link.isMethod then ":" else ".") ∉ ["\x7b", "\x7d", "["] ∧
        (if link.isMethod then ":" else ".") ≠ "=" := by
      split <;> decide
    have hkey : ∀ words, fieldKey? first.word
        (sign (if link.isMethod then ":" else ".") :: words) = none := by
      have hbracket : first.word.isSign "[" = false := first.isSign_eq_false (by simp)
      intro words
      simp [fieldKey?, hlink.2, hbracket]
    obtain ⟨last, hlast⟩ := @ih none (sign (if link.isMethod then ":" else ".")) link.name
    refine ⟨last, ?_⟩
    rw [← hlast, Reference.words, List.flatMap_cons, List.cons_append, List.cons_append,
      List.cons_append,
      membersFrom_skip (first.isSign_eq_false (by simp)) (first.isSign_eq_false (by simp)) (hkey _),
      membersFrom_sign hlink.1]
    rfl

/-- A single word that is no name and no sign gives no members. -/
theorem membersFrom_single (hname : word.isName = false)
    (hsign : ∀ text ∈ ["\x7b", "\x7d", "["], word.isSign text = false) (htext : text ≠ "[")
    (pending : Option Text) (previous other : Word) :
    membersFrom pending frame outer previous (word :: sign text :: rest) =
      membersFrom none frame outer other (sign text :: rest) := by
  simp only [List.forall_mem_cons] at hsign
  rw [membersFrom_skip hsign.1 hsign.2.1 (fieldKey?_of_other hname hsign.2.2.1 _),
    membersFrom_previous htext]

/-- A value gives its members to the field that is open in front of it, whose key is known. -/
def GivesMembers (words : List Word) (members : List Chain) (rest : List Word) : Prop :=
  ∀ (pending : Option Text) (frame : Frame) (outer : List Frame),
    (∀ key ∈ pending, frame.members.contains [key] = true) → ∀ previous other : Word,
      membersFrom pending frame outer previous (words ++ rest) =
        membersFrom none (Frame.close ⟨pending, ⟨members⟩⟩ frame) outer other rest

/-- A value without members leaves the field empty. -/
theorem givesMembers_nil {words : List Word}
    (hwords : ∀ (pending : Option Text) (frame : Frame) (outer : List Frame)
      (previous other : Word), membersFrom pending frame outer previous (words ++ rest) =
        membersFrom none frame outer other rest) : GivesMembers words [] rest := by
  intro pending frame outer hpending previous other
  rw [close_nil hpending, hwords]

/-- A key that is read adds itself and, below it, the members of the value behind it. -/
theorem GivesMembers.below {value : List Word} (hvalue : GivesMembers value members rest)
    {key : Text} {more : Nat} {words : List Word}
    (hword : word.isSign "\x7b" = false ∧ word.isSign "\x7d" = false)
    (hprevious : precedesField previous = true) (hkey : fieldKey? word words = some (key, more))
    (hmore : words.drop more = value ++ rest) (other : Word) :
    membersFrom none frame outer previous (word :: words) =
      membersFrom none
        { frame with
          members := ([key] :: members.map (key :: ·)).foldl Scope.add frame.members } outer
        other rest := by
  have htouch : ∀ touched ∈ some key, (frame.touch key).members.contains [touched] = true := by
    rintro _ ⟨⟩
    exact Scope.contains_add _ _
  rw [membersFrom_key hword.1 hword.2 hprevious hkey, hmore, hvalue _ _ _ htouch _ other,
    close_touch]

/-- The label of a field, and the value behind it. -/
theorem GivesMembers.labelled {value : List Word} (hvalue : GivesMembers value members rest)
    (label : Label) (hprevious : precedesField previous = true) (other : Word) :
    membersFrom none frame outer previous (label.words ++ (value ++ rest)) =
      membersFrom none
        { frame with members := (label.paths members).foldl Scope.add frame.members } outer
        other rest := by
  cases label with
  | positional => exact hvalue none frame outer (by simp) previous other
  | named name =>
    have hkey : ∀ words, fieldKey? name.word (sign "=" :: words) = some (name.word.text, 1) := by
      intro words
      simp [fieldKey?, name.isName]
    exact hvalue.below ⟨name.isSign_eq_false (by simp), name.isSign_eq_false (by simp)⟩ hprevious
      (hkey _) rfl other
  | quoted literal =>
    have hkey : ∀ words, fieldKey? (sign "[") (literal.word :: sign "]" :: sign "=" :: words) =
        if literal.content = [] then none else some (literal.content, 3) := by
      intro words
      have hunquoted := unquoted_word literal
      have hkind : literal.word.kind = .string := rfl
      by_cases hempty : literal.content = [] <;> simp [fieldKey?, hunquoted, hempty, hkind]
    simp only [Label.words, List.cons_append, List.nil_append, Label.paths, Label.key?]
    by_cases hempty : literal.content = []
    · rw [if_pos hempty] at hkey ⊢
      have hsign : ∀ text, literal.word.isSign text = false := by
        intro text
        simp [Word.isSign, Quoted.word]
      have hstring : ∀ words, fieldKey? literal.word words = none :=
        fieldKey?_of_other rfl (hsign _)
      rw [membersFrom_skip (by simp) (by simp) (hkey _),
        membersFrom_skip (hsign _) (hsign _) (hstring _),
        membersFrom_sign (by decide), membersFrom_sign (by decide)]
      exact hvalue none frame outer (by simp) _ other
    · rw [if_neg hempty] at hkey ⊢
      exact hvalue.below (by simp) hprevious (hkey _) rfl other
  | numbered number hnumber =>
    have hopen : ∀ words, fieldKey? (sign "[") (number :: words) = none := by
      intro words
      simp [fieldKey?, hnumber]
    have hsign : ∀ text, number.isSign text = false := by
      intro text
      simp [Word.isSign, hnumber]
    have hskip : ∀ words, fieldKey? number words = none :=
      fieldKey?_of_other (by simp [Word.isName, hnumber, TokenKind.isName]) (hsign _)
    simp only [Label.words, List.cons_append, List.nil_append, Label.paths, Label.key?]
    rw [membersFrom_skip (by simp) (by simp) (hopen _),
      membersFrom_skip (hsign _) (hsign _) (hskip _),
      membersFrom_sign (by decide), membersFrom_sign (by decide)]
    exact hvalue none frame outer (by simp) _ other

/-- Chains that a label gives are not empty. -/
theorem Label.paths_ne_nil (label : Label) (members : List Chain) :
    ∀ path ∈ label.paths members, path ≠ [] := by
  intro path hpath
  unfold Label.paths at hpath
  split at hpath
  · cases hpath
  · rcases List.mem_cons.mp hpath with rfl | hpath
    · exact List.cons_ne_nil _ _
    · obtain ⟨member, _, rfl⟩ := List.mem_map.mp hpath
      exact List.cons_ne_nil _ _

/-- The chains that fields give are not empty. -/
theorem Fields.paths_ne_nil (fields : Fields) : ∀ path ∈ fields.paths, path ≠ [] := by
  cases fields with
  | none => exact List.forall_mem_nil _
  | last label value => exact label.paths_ne_nil _
  | more label value separator rest =>
    exact List.forall_mem_append.mpr ⟨label.paths_ne_nil _, rest.paths_ne_nil⟩

/-- Every member of a value has a name. -/
theorem Content.members_ne_nil (value : Content) : ∀ member ∈ value.members, member ≠ [] := by
  cases value with
  | table fields =>
    intro member hmember
    exact fields.paths_ne_nil member (List.mem_eraseDups.mp hmember)
  | _ => exact List.forall_mem_nil _

/-- Fields that are read between braces are the value of the field around them. -/
theorem givesMembers_table {fields : Fields} (htext : text ≠ "[")
    (hfields : ∀ (frame : Frame) (outer : List Frame),
      membersFrom none frame outer (sign "\x7b")
          (fields.words ++ sign "\x7d" :: sign text :: rest) =
        membersFrom none { frame with members := fields.paths.foldl Scope.add frame.members } outer
          (sign "\x7b") (sign "\x7d" :: sign text :: rest)) :
    GivesMembers (sign "\x7b" :: (fields.words ++ [sign "\x7d"])) fields.paths.eraseDups
      (sign text :: rest) := by
  intro pending frame outer _ previous other
  have hinner : membersFrom none (.new pending) (frame :: outer) (sign "\x7b")
      (fields.words ++ sign "\x7d" :: sign text :: rest) =
        membersFrom none ⟨pending, ⟨fields.paths.eraseDups⟩⟩ (frame :: outer) (sign "\x7b")
          (sign "\x7d" :: sign text :: rest) := by
    rw [← Scope.foldl_add_empty fields.paths_ne_nil]
    exact hfields (.new pending) (frame :: outer)
  rw [List.cons_append, List.append_assoc, List.singleton_append, membersFrom.eq_def]
  simp only [Word.isSign_sign, decide_true, if_true]
  rw [hinner, membersFrom.eq_def]
  simp only [Word.isSign_sign, decide_true, if_true, String.reduceEq, decide_false,
    Bool.false_eq_true, if_false]
  exact membersFrom_previous htext _ _ _ _ _ _

/-- Arguments do not begin with an equals sign. -/
theorem Arguments.head_isSign (arguments : Arguments) (rest : List Word) :
    ∀ next ∈ (arguments.words ++ rest).head?, next.isSign "=" = false := by
  cases arguments with
  | list values => simp [Arguments.words]
  | string literal hstring => simp [Arguments.words, Word.isSign, hstring]
  | table fields => simp [Arguments.words]

mutual

/-- Every value gives its members in front of a sign that does not go on with it. -/
theorem Content.givesMembers : ∀ (value : Content) {text : String} {rest : List Word},
    text ≠ "[" ∧ text ≠ "=" → GivesMembers value.words value.members (sign text :: rest)
  | .atom atom, _, _, htext =>
    givesMembers_nil fun pending _ _ previous other =>
      membersFrom_single atom.isOther.1 atom.isOther.2 htext.1 pending previous other
  | .chain reference, text, rest, htext => by
    refine givesMembers_nil fun pending frame outer previous other => ?_
    obtain ⟨last, hlast⟩ := @membersFrom_reference pending frame outer previous (sign text :: rest)
      reference (by simpa using htext.2)
    rw [Content.words, hlast, membersFrom_previous htext.1]
  | .call reference arguments, _, _, htext => by
    refine givesMembers_nil fun pending frame outer previous other => ?_
    obtain ⟨last, hlast⟩ := membersFrom_reference reference (arguments.head_isSign _)
    rw [Content.words, List.append_assoc, hlast, arguments.membersFrom_words htext last other]
  | .table fields, _, _, htext =>
    givesMembers_table htext.1 fun _ _ => fields.membersFrom_words (by simp [precedesField]) _

/-- Values in a list leave the members of the constructor around them as they are. -/
theorem Contents.membersFrom_words : ∀ (values : Contents) {frame : Frame}
    {outer : List Frame} {text : String} {rest : List Word}, text ≠ "[" ∧ text ≠ "=" →
    ∀ previous other : Word,
      membersFrom none frame outer previous (values.words ++ sign text :: rest) =
        membersFrom none frame outer other (sign text :: rest)
  | .none, _, _, _, _, htext, _, _ => membersFrom_previous htext.1 _ _ _ _ _ _
  | .last value, _, _, _, _, htext, _, _ => value.givesMembers htext _ _ _ (by simp) _ _
  | .more value rest, _, _, _, _, htext, previous, other => by
    rw [Contents.words, List.append_assoc, List.cons_append,
      value.givesMembers (by decide) none _ _ (by simp) previous other,
      membersFrom_sign (by decide), rest.membersFrom_words htext _ other]
    rfl

/-- So do the arguments of a call. -/
theorem Arguments.membersFrom_words : ∀ (arguments : Arguments) {frame : Frame}
    {outer : List Frame} {text : String} {rest : List Word}, text ≠ "[" ∧ text ≠ "=" →
    ∀ previous other : Word,
      membersFrom none frame outer previous (arguments.words ++ sign text :: rest) =
        membersFrom none frame outer other (sign text :: rest)
  | .list values, _, _, _, _, htext, _, other => by
    rw [Arguments.words, List.cons_append, List.append_assoc, List.singleton_append,
      membersFrom_sign (by decide), values.membersFrom_words (by decide) _ other,
      membersFrom_sign (by decide), membersFrom_previous htext.1]
  | .string literal hstring, _, _, _, _, htext, previous, other =>
    membersFrom_single (by simp [Word.isName, hstring, TokenKind.isName])
      (by simp [Word.isSign, hstring]) htext.1 none previous other
  | .table fields, frame, outer, _, _, htext, previous, other =>
    givesMembers_table htext.1 (fun _ _ => fields.membersFrom_words (by simp [precedesField]) _)
      none frame outer (by simp) previous other

/-- Fields add their paths to the members of their constructor, in order. -/
theorem Fields.membersFrom_words : ∀ (fields : Fields) {frame : Frame} {outer : List Frame}
    {previous : Word} {rest : List Word}, precedesField previous = true → ∀ other : Word,
      membersFrom none frame outer previous (fields.words ++ sign "\x7d" :: rest) =
        membersFrom none { frame with members := fields.paths.foldl Scope.add frame.members } outer
          other (sign "\x7d" :: rest)
  | .none, _, _, _, _, _, _ => membersFrom_previous (by decide) _ _ _ _ _ _
  | .last label value, _, _, _, _, hprevious, other => by
    rw [Fields.words, List.append_assoc]
    exact GivesMembers.labelled (value.givesMembers (by decide)) label hprevious other
  | .more label value separator rest, _, _, _, _, hprevious, other => by
    obtain ⟨text, hword, htext⟩ : ∃ text, separator.word = sign text ∧
        (text = "," ∨ text = ";") := by
      cases separator
      · exact ⟨_, rfl, Or.inl rfl⟩
      · exact ⟨_, rfl, Or.inr rfl⟩
    have hplain : (text ≠ "[" ∧ text ≠ "=") ∧ text ∉ ["\x7b", "\x7d", "["] := by
      rcases htext with rfl | rfl <;> decide
    have hseparates : precedesField (sign text) = true := by
      rcases htext with rfl | rfl <;> simp [precedesField]
    rw [Fields.words, Fields.paths, List.foldl_append, hword, List.append_assoc, List.append_assoc,
      List.cons_append, GivesMembers.labelled (value.givesMembers hplain.1) label hprevious other,
      membersFrom_sign hplain.2]
    exact rest.membersFrom_words hseparates other

end

/-- The words of a constructor give the members of its fields, and the words behind it are left. -/
theorem read_words (fields : Fields) (after : List Word) :
    read (fields.words ++ sign "\x7d" :: after) = (⟨fields.paths.eraseDups⟩, after) := by
  have hfields : membersFrom none (.new none) [] (sign "\x7b")
      (fields.words ++ sign "\x7d" :: after) =
        membersFrom none { Frame.new none with members := fields.paths.foldl Scope.add .empty } []
          (sign "\x7b") (sign "\x7d" :: after) :=
    fields.membersFrom_words (by simp [precedesField]) _
  rw [read, ← show sign "\x7b" = ⟨.operator, ['\x7b']⟩ from rfl, hfields, membersFrom.eq_def]
  simp [Scope.foldl_add_empty fields.paths_ne_nil]

end Constructor

end LuaAssist

import LuaAssist.Proofs.Scope.Constructors

/-!
# The members of written constructors

The words of an expression in a program are words that a constructor may have, and they give the
members that the expression is known to have.
-/

namespace LuaAssist.Program

open Constructor (Content Contents Label Quoted Reference)
open Word (sign)

/-! ## Expressions by their words -/

/-- A name as a word of a constructor. -/
def Name.inWords (name : Name) : Constructor.Name := ⟨name.word, name.isName_word⟩

/-- Names between points as a reference in a constructor. -/
def Names.inWords (names : Names) : Reference :=
  ⟨names.first.inWords, names.more.map fun name => ⟨false, name.inWords⟩⟩

/-- They are written the same. -/
theorem Names.words_inWords (names : Names) : names.inWords.words = names.words "." := by
  rw [Reference.words, Names.inWords, List.flatMap_map]
  rfl

/-- A key as the label of a field. -/
def Key.inWords : Key → Label
  | .positional => .positional
  | .named name => .named name.inWords
  | .quoted literal edges => .quoted ⟨literal.quote, literal.content, literal.quoted, edges⟩

/-- It is written the same. -/
theorem Key.words_inWords (key : Key) : key.inWords.words = key.words := by
  cases key <;> rfl

/-- It gives its field the same name. -/
theorem Key.key?_inWords (key : Key) : key.inWords.key? = key.name? := by
  cases key <;> rfl

/-- It leads to the same paths, whatever members its value has. -/
theorem Key.paths_inWords (key : Key) (members : List Chain) :
    key.inWords.paths members = key.paths members := by
  cases key <;> rfl

/-- A constant is one of three keywords. -/
theorem Constant.mem_words (constant : Constant) :
    constant.word ∈ ["nil", "true", "false"].map Word.keyword := by
  cases constant <;> simp [Constant.word]

mutual

/-- An expression as the value of a field. -/
def Expression.inWords : Expression → Content
  | .number numeral => .atom ⟨numeral.word, .inl rfl⟩
  | .text literal => .atom ⟨literal.word, .inr (.inl rfl)⟩
  | .constant constant => .atom ⟨constant.word, .inr (.inr constant.mem_words)⟩
  | .chain path => .chain path.inWords
  | .call path arguments => .call path.inWords arguments.inWords
  | .table fields => .table fields.inWords

/-- Expressions as values with commas between them. -/
def Expressions.inWords : Expressions → Contents
  | .last value => .last value.inWords
  | .more value rest => .more value.inWords rest.inWords

/-- Arguments that stand in parentheses. -/
def Arguments.inWords : Arguments → Constructor.Arguments
  | .none => .list .none
  | .some values => .list values.inWords

/-- The fields of a constructor. -/
def Fields.inWords : Fields → Constructor.Fields
  | .none => .none
  | .last key value => .last key.inWords value.inWords
  | .more key value separator rest => .more key.inWords value.inWords separator rest.inWords

end

mutual

/-- An expression is written as the content of a field is. -/
theorem Expression.words_inWords : ∀ value : Expression, value.inWords.words = value.words
  | .number _ | .text _ | .constant _ => rfl
  | .chain path => path.words_inWords
  | .call path arguments => by
    rw [Expression.inWords, Content.words, path.words_inWords, arguments.words_inWords,
      Expression.words]
  | .table fields => by
    rw [Expression.inWords, Content.words, fields.words_inWords, Expression.words]

/-- So are the expressions of a list. -/
theorem Expressions.words_inWords : ∀ values : Expressions, values.inWords.words = values.words
  | .last value => value.words_inWords
  | .more value rest => by
    rw [Expressions.inWords, Contents.words, value.words_inWords, rest.words_inWords,
      Expressions.words]

/-- So are arguments. -/
theorem Arguments.words_inWords : ∀ arguments : Arguments,
    arguments.inWords.words = arguments.words
  | .none => rfl
  | .some values => by
    rw [Arguments.inWords, Constructor.Arguments.words, values.words_inWords, Arguments.words]

/-- So are the fields of a constructor. -/
theorem Fields.words_inWords : ∀ fields : Fields, fields.inWords.words = fields.words
  | .none => rfl
  | .last key value => by
    rw [Fields.inWords, Constructor.Fields.words, key.words_inWords, value.words_inWords,
      Fields.words]
  | .more key value separator rest => by
    rw [Fields.inWords, Constructor.Fields.words, key.words_inWords, value.words_inWords,
      rest.words_inWords, Fields.words]

end

mutual

/-- The content of a field has the members of the expression. -/
theorem Expression.members_inWords : ∀ value : Expression, value.inWords.members = value.members
  | .number _ | .text _ | .constant _ | .chain _ | .call _ _ => rfl
  | .table fields => by
    rw [Expression.inWords, Content.members, fields.paths_inWords, Expression.members]

/-- The fields of a constructor lead to the paths of the fields. -/
theorem Fields.paths_inWords : ∀ fields : Fields, fields.inWords.paths = fields.paths
  | .none => rfl
  | .last key value => by
    rw [Fields.inWords, Constructor.Fields.paths, key.paths_inWords, value.members_inWords,
      Fields.paths]
  | .more key value separator rest => by
    rw [Fields.inWords, Constructor.Fields.paths, key.paths_inWords, value.members_inWords,
      rest.paths_inWords, Fields.paths]

end

/-! ## What is read -/

/-- No path of a key is empty. -/
theorem Key.paths_ne_nil (key : Key) (members : List Chain) :
    ∀ path ∈ key.paths members, path ≠ [] :=
  key.paths_inWords members ▸ key.inWords.paths_ne_nil members

/-- The chains that fields give are not empty. -/
theorem Fields.paths_ne_nil (fields : Fields) : ∀ path ∈ fields.paths, path ≠ [] :=
  fields.paths_inWords ▸ fields.inWords.paths_ne_nil

/-- No member of an expression is empty. -/
theorem Expression.members_ne_nil (value : Expression) : ∀ member ∈ value.members, member ≠ [] :=
  value.members_inWords ▸ value.inWords.members_ne_nil

/-- A written constructor gives the members of its fields. -/
theorem read_fields (fields : Fields) (after : List Word) :
    Constructor.read (fields.words ++ sign "\x7d" :: after) =
      (⟨fields.paths.eraseDups⟩, after) := by
  rw [← fields.words_inWords, ← fields.paths_inWords, Constructor.read_words]

end LuaAssist.Program

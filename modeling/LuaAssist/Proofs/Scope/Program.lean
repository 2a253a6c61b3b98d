import LuaAssist.Proofs.Document.Joined
import LuaAssist.Proofs.Token.Prefix
import LuaAssist.Scope.Binding

/-!
# Programs and what they bind

Lists of statements as they are written: declarations, assignments, function headers, headers of
loops, `end` and calls, with values that are numbers, short strings, constants, chains, calls
and table constructors. A program has words, in which all names are of the same category, and
it binds chains: what is bound is told here by the statements and not by the words.
-/

namespace LuaAssist

namespace Word

/-- The word that is a sign. -/
def sign (text : String) : Word := ⟨.operator, text.toList⟩

/-- The word that is a keyword. -/
def keyword (text : String) : Word := ⟨.keyword, text.toList⟩

variable (text other : String)

/-- A sign is an operator. -/
@[simp] theorem kind_sign : (sign text).kind = .operator := rfl

/-- A keyword is one by its category. -/
@[simp] theorem kind_keyword : (keyword text).kind = .keyword := rfl

/-- A sign is the sign of its text and no other. -/
@[simp] theorem isSign_sign : (sign text).isSign other = decide (text = other) := by
  simp [isSign, sign, String.toList_inj]

/-- A sign is no keyword. -/
@[simp] theorem isKeyword_sign : (sign text).isKeyword other = false := rfl

/-- A sign is no name. -/
@[simp] theorem isName_sign : (sign text).isName = false := rfl

/-- Asked for as a sign, a keyword is recognised by its text. -/
@[simp] theorem isSign_keyword : (keyword text).isSign other = decide (text = other) := by
  simp [isSign, keyword, String.toList_inj]

/-- A keyword is the keyword of its text and no other. -/
@[simp] theorem isKeyword_keyword : (keyword text).isKeyword other = decide (text = other) := by
  simp [isKeyword, keyword, String.toList_inj]

/-- A keyword is no name. -/
@[simp] theorem isName_keyword : (keyword text).isName = false := rfl

end Word

namespace Program

open Word (sign keyword)

/-! ## Names, numerals and strings -/

/-- A name of ASCII characters that is not reserved. -/
structure Name where
  text : Text
  starts : text.head?.any Lexer.isNameStart = true
  parts : ∀ c ∈ text, Lexer.isNamePart c = true
  free : Words.isReserved text = false

/-- A name as a word. -/
def Name.word (name : Name) : Word := ⟨.identifier, name.text⟩

/-- The word of a name is a name. -/
@[simp] theorem Name.isName_word (name : Name) : name.word.isName = true := by
  have hstarts := name.starts
  cases htext : name.text with
  | nil => simp [htext] at hstarts
  | cons c rest =>
    have hc : Lexer.isNameStart c = true := by simpa [htext] using hstarts
    simp only [Lexer.isNameStart, Bool.or_eq_true, decide_eq_true_eq] at hc
    have hascii : c.isAlpha = true → c.toNat < 0x80 := fun halpha =>
      Nat.lt_of_le_of_lt (Lexer.bounds_of_isAlpha halpha).2 (by decide)
    rcases hc with halpha | rfl
    · simp [Word.isName, Name.word, htext, TokenKind.isName, Text.isLetter, halpha, hascii halpha]
    · simp [Word.isName, Name.word, htext, TokenKind.isName]

/-- It is written as an identifier. -/
@[simp] theorem Name.kind_word (name : Name) : name.word.kind = .identifier := rfl

/-- It is no keyword. -/
@[simp] theorem Name.isKeyword_word (name : Name) (keyword : String) :
    name.word.isKeyword keyword = false := rfl

/-- A name is none of the signs. -/
@[simp] theorem Name.isSign_word (name : Name) :
    name.word.isSign "(" = false ∧ name.word.isSign ")" = false ∧
      name.word.isSign "\x7b" = false ∧ name.word.isSign "\x7d" = false ∧
      name.word.isSign "[" = false ∧ name.word.isSign "]" = false ∧
      name.word.isSign "=" = false ∧ name.word.isSign "," = false ∧
      name.word.isSign ";" = false ∧ name.word.isSign "." = false ∧
      name.word.isSign ":" = false ∧ name.word.isSign "<" = false := by
  have hother : ∀ sign : String, sign.toList.head?.any Lexer.isNameStart = false →
      name.word.isSign sign = false := by
    intro sign hsign
    rw [Bool.eq_false_iff]
    intro heq
    simp only [Word.isSign, Bool.and_eq_true, decide_eq_true_eq] at heq
    have hstarts := name.starts
    rw [← show name.word.text = name.text from rfl, heq.1.1, hsign] at hstarts
    cases hstarts
  refine ⟨?_, ?_, ?_, ?_, ?_, ?_, ?_, ?_, ?_, ?_, ?_, ?_⟩ <;> exact hother _ (by decide)

/-- One name or several, which some sign keeps apart. -/
structure Names where
  first : Name
  more : List Name

/-- The words of names with a sign between each two of them. -/
def Names.words (separator : String) (names : Names) : List Word :=
  names.first.word :: names.more.flatMap fun name => [sign separator, name.word]

/-- A separator stands between the first name and the others. -/
theorem Names.words_cons (separator : String) (first name : Name) (more : List Name) :
    Names.words separator ⟨first, name :: more⟩ =
      first.word :: sign separator :: Names.words separator ⟨name, more⟩ := rfl

/-- The names as texts. They are the chain if the names are reached one from the other. -/
def Names.texts (names : Names) : List Text := names.first.text :: names.more.map Name.text

/-- Nothing, or the letter of an exponent and its digits, which may have a sign. -/
def isExponent (hex : Bool) : Text → Bool
  | [] => true
  | mark :: '+' :: power => Lexer.isExponentMark hex mark && power.all Char.isDigit
  | mark :: '-' :: power => Lexer.isExponentMark hex mark && power.all Char.isDigit
  | mark :: power => Lexer.isExponentMark hex mark && power.all Char.isDigit

/-- A number as it is written. -/
structure Numeral where
  /-- The letter that follows a leading zero in base sixteen. -/
  base : Option Char
  mantissa : Text
  exponent : Text
  based : ∀ letter ∈ base, letter = 'x' ∨ letter = 'X'
  digits : ∀ c ∈ mantissa, Lexer.isNumeralPart base.isSome c = true
  /-- In base ten a digit comes first, or a point and a digit. -/
  starts : base = none → mantissa.head?.any Char.isDigit = true ∨
    mantissa.head? = some '.' ∧ mantissa.tail.head?.any Char.isDigit = true
  scaled : isExponent base.isSome exponent = true

/-- The text of a number. -/
def Numeral.text (numeral : Numeral) : Text :=
  (match numeral.base with
    | none => numeral.mantissa
    | some letter => '0' :: letter :: numeral.mantissa) ++ numeral.exponent

/-- A number as a word. -/
def Numeral.word (numeral : Numeral) : Word := ⟨.number, numeral.text⟩

/-- The word of a number is no name. -/
@[simp] theorem Numeral.isName_word (numeral : Numeral) : numeral.word.isName = false := rfl

/-- Nor is it a keyword. -/
@[simp] theorem Numeral.isKeyword_word (numeral : Numeral) (keyword : String) :
    numeral.word.isKeyword keyword = false := rfl

/-- Nor is it a sign. -/
@[simp] theorem Numeral.isSign_word (numeral : Numeral) (sign : String) :
    numeral.word.isSign sign = false := by
  simp [Word.isSign, Numeral.word]

/-- No character of the text ends a string with this quote: a backslash keeps the character
behind it from doing so. -/
def staysInside (quote : Char) : Text → Bool
  | [] => true
  | '\\' :: rest =>
    match rest with
    | [] => false
    | _ :: rest => staysInside quote rest
  | c :: rest => c ≠ quote && staysInside quote rest

/-- A short string on one line. -/
structure Literal where
  quote : Char
  content : Text
  quoted : quote = '"' ∨ quote = '\''
  inside : staysInside quote content = true
  unbroken : Document.Unbroken content

/-- The text of a string with its quotes. -/
def Literal.text (literal : Literal) : Text := literal.quote :: (literal.content ++ [literal.quote])

/-- A string as a word. -/
def Literal.word (literal : Literal) : Word := ⟨.string, literal.text⟩

/-- The word of a literal is no name. -/
@[simp] theorem Literal.isName_word (literal : Literal) : literal.word.isName = false := rfl

/-- Nor is it a keyword. -/
@[simp] theorem Literal.isKeyword_word (literal : Literal) (keyword : String) :
    literal.word.isKeyword keyword = false := rfl

/-- Nor is it a sign, for it begins with a quote. -/
@[simp] theorem Literal.isSign_word (literal : Literal) (sign : String) :
    literal.word.isSign sign = false := by
  simp [Word.isSign, Literal.word]

/-- The content neither begins nor ends with a quote of either kind. -/
def Literal.HasPlainEdges (literal : Literal) : Prop :=
  ∀ c ∈ literal.content.head?.toList ++ literal.content.getLast?.toList, c ≠ '"' ∧ c ≠ '\''

instance (literal : Literal) : Decidable literal.HasPlainEdges :=
  inferInstanceAs (Decidable (∀ c ∈ _, _))

/-! ## Values -/

/-- What is written in front of the value of a field. -/
inductive Key where
  | positional
  | named (name : Name)
  | quoted (literal : Literal) (edges : literal.HasPlainEdges)

/-- The words of a key, up to the equals sign. -/
def Key.words : Key → List Word
  | .positional => []
  | .named name => [name.word, sign "="]
  | .quoted literal _ => [sign "[", literal.word, sign "]", sign "="]

/-- The name of the member that a field gives: none if the field has no key or an empty one. -/
def Key.name? : Key → Option Text
  | .positional => none
  | .named name => some name.text
  | .quoted literal _ => if literal.content = [] then none else some literal.content

/-- The chains that a field gives whose value has the given members. -/
def Key.paths (key : Key) (members : List Chain) : List Chain :=
  match key.name? with
  | none => []
  | some name => [name] :: members.map (name :: ·)

/-- A sign between two fields. -/
inductive Separator where
  | comma
  | semicolon

/-- A separator as a word. -/
def Separator.word : Separator → Word
  | .comma => sign ","
  | .semicolon => sign ";"

/-- A constant with a name. -/
inductive Constant where
  | nil
  | true
  | false

/-- A constant as a word. -/
def Constant.word : Constant → Word
  | .nil => keyword "nil"
  | .true => keyword "true"
  | .false => keyword "false"

mutual

/-- An expression. -/
inductive Expression where
  | number (numeral : Numeral)
  | text (literal : Literal)
  | constant (constant : Constant)
  | chain (path : Names)
  | call (path : Names) (arguments : Arguments)
  | table (fields : Fields)

/-- One expression or several. -/
inductive Expressions where
  | last (value : Expression)
  | more (value : Expression) (rest : Expressions)

/-- The arguments of a call. -/
inductive Arguments where
  | none
  | some (values : Expressions)

/-- The fields of a table constructor. A separator may follow the last of them. -/
inductive Fields where
  | none
  | last (key : Key) (value : Expression)
  | more (key : Key) (value : Expression) (separator : Separator) (rest : Fields)

end

mutual

/-- The words of an expression. -/
def Expression.words : Expression → List Word
  | .number numeral => [numeral.word]
  | .text literal => [literal.word]
  | .constant constant => [constant.word]
  | .chain path => path.words "."
  | .call path arguments => path.words "." ++ arguments.words
  | .table fields => sign "\x7b" :: (fields.words ++ [sign "\x7d"])

/-- The words of expressions with commas between them. -/
def Expressions.words : Expressions → List Word
  | .last value => value.words
  | .more value rest => value.words ++ sign "," :: rest.words

/-- The words of arguments with their parentheses. -/
def Arguments.words : Arguments → List Word
  | .none => [sign "(", sign ")"]
  | .some values => sign "(" :: (values.words ++ [sign ")"])

/-- The words of fields. -/
def Fields.words : Fields → List Word
  | .none => []
  | .last key value => key.words ++ value.words
  | .more key value separator rest => key.words ++ (value.words ++ separator.word :: rest.words)

end

/-- The words between the parentheses of arguments. -/
def Arguments.inner : Arguments → List Word
  | .none => []
  | .some values => values.words

/-- Arguments stand between parentheses. -/
theorem Arguments.words_eq (arguments : Arguments) :
    arguments.words = sign "(" :: (arguments.inner ++ [sign ")"]) := by
  cases arguments <;> rfl

mutual

/-- The members that an expression is known to have, each once. -/
def Expression.members : Expression → List Chain
  | .number _ | .text _ | .constant _ | .chain _ | .call _ _ => []
  | .table fields => fields.paths.eraseDups

/-- The members that fields give, in their order. -/
def Fields.paths : Fields → List Chain
  | .none => []
  | .last key value => key.paths value.members
  | .more key value _ rest => key.paths value.members ++ rest.paths

end

/-- What is known about an expression: the members of a table, or the chain that it is. -/
def Expression.value : Expression → Value
  | .number _ | .text _ | .constant _ | .call _ _ => .unknown
  | .chain path => ⟨[], some path.texts⟩
  | .table fields => ⟨fields.paths.eraseDups, none⟩

/-- What is known about expressions, one by one. -/
def Expressions.values : Expressions → List Value
  | .last value => [value.value]
  | .more value rest => value.value :: rest.values

/-! ## Statements -/

/-- A statement, or the part of one that stands in front of a block or behind it. -/
inductive Statement where
  | declare (names : Names) (values : Option Expressions)
  | assign (first : Names) (more : List Names) (values : Expressions)
  | function (isLocal : Bool) (path : Names) (method : Option Name) (parameters : Option Names)
  | forIn (names : Names) (source : Expression)
  | forTo (name : Name) (start stop : Expression)
  | done
  | call (path : Names) (arguments : Arguments)

/-- The words of the targets of an assignment. -/
def targetWords (first : Names) (more : List Names) : List Word :=
  first.words "." ++ more.flatMap fun path => sign "," :: path.words "."

/-- The words of a function's name with its parameters. -/
def headerWords (path : Names) (method : Option Name) (parameters : Option Names) : List Word :=
  path.words "." ++ ((method.map fun name => [sign ":", name.word]).getD [] ++
    sign "(" :: ((parameters.map (Names.words ",")).getD [] ++ [sign ")"]))

/-- The words of a statement. -/
def Statement.words : Statement → List Word
  | .declare names none => keyword "local" :: names.words ","
  | .declare names (some values) => keyword "local" :: (names.words "," ++ sign "=" :: values.words)
  | .assign first more values => targetWords first more ++ sign "=" :: values.words
  | .function isLocal path method parameters =>
    (if isLocal then [keyword "local"] else []) ++
      keyword "function" :: headerWords path method parameters
  | .forIn names source =>
    keyword "for" :: (names.words "," ++ keyword "in" :: (source.words ++ [keyword "do"]))
  | .forTo name start stop =>
    keyword "for" :: name.word :: sign "=" ::
      ((Expressions.more start (.last stop)).words ++ [keyword "do"])
  | .done => [keyword "end"]
  | .call path arguments => path.words "." ++ arguments.words

/-- Chains with the values that have the same place. -/
def bindEach (paths : List Chain) (values : List Value) : List Binding :=
  paths.mapIdx fun place path => ⟨path, values[place]?.getD .unknown⟩

/-- The bindings of names that get no value that is known. -/
def bindNames (names : List Text) : List Binding := names.map fun name => .plain [name]

/-- What a statement binds. -/
def Statement.bindings : Statement → List Binding
  | .declare names values =>
    bindEach (names.texts.map fun name => [name]) ((values.map Expressions.values).getD [])
  | .assign first more values => bindEach ((first :: more).map Names.texts) values.values
  | .function _ path method parameters =>
    .plain (path.texts ++ (method.map Name.text).toList) ::
      bindNames ((parameters.map Names.texts).getD [])
  | .forIn names _ => bindNames names.texts
  | .forTo name _ _ => bindNames [name.text]
  | .done => []
  | .call _ _ => []

end Program

/-- Statements one behind the other. -/
abbrev Program := List Program.Statement

namespace Program

/-- The words of a program. -/
def words (program : Program) : List Word := program.flatMap Statement.words

/-- What a program binds, in order. -/
def bindings (program : Program) : List Binding := program.flatMap Statement.bindings

end Program

end LuaAssist

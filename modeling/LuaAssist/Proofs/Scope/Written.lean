import LuaAssist.Proofs.Scope.Program
import LuaAssist.Proofs.Token.Apart

/-!
# The words of programs stand

Every name, number, string, keyword and sign of a program is a token of its own where it does not
go on, so the words of a program are found in every text that is written with them.
-/

namespace LuaAssist

variable {rest : Text}

/-- A run of characters of a class ends in front of any other character. -/
theorem Text.takeWhile_append {front : Text} {test : Char → Bool}
    (hrest : ∀ next ∈ rest.head?, test next = false) (hfront : ∀ c ∈ front, test c = true) :
    (front ++ rest).takeWhile test = front := by
  have hstop : rest.takeWhile test = [] := by
    cases rest with
    | nil => rfl
    | cons c behind => exact List.takeWhile_cons_of_neg (by simp [hrest c rfl])
  rw [List.takeWhile_append_of_pos hfront, hstop, List.append_nil]

/-- A class of characters that has none of the breaks in it. -/
theorem Document.unbroken_of_forall {text : Text} {test : Char → Bool}
    (hbreaks : ∀ c, Document.isBreak c = true → test c = false)
    (htext : ∀ c ∈ text, test c = true) : Document.Unbroken text := by
  intro c hmem
  cases hbreak : Document.isBreak c with
  | false => rfl
  | true =>
    have hnone := hbreaks c hbreak
    rw [htext c hmem] at hnone
    cases hnone

/-- A question about the breaks is answered for each of them. -/
theorem Document.forall_isBreak {test : Char → Bool}
    (hall : ∀ c ∈ ['\n', '\x0b', '\x0c', '\r', '\u0085', '\u2028', '\u2029'], test c = false)
    (c : Char) (hbreak : Document.isBreak c = true) : test c = false := by
  refine hall c ?_
  simpa [Document.isBreak, or_assoc] using hbreak

namespace Lexer

variable {text : Text}

/-- A name in front of what is no part of it. -/
theorem read_name {c : Char} {tail : Text} (hstart : isNameStart c = true)
    (hparts : ∀ d ∈ tail, isNamePart d = true)
    (hends : ∀ next ∈ rest.head?, isNamePart next = false) :
    Lexer.read .start c (tail ++ rest) =
      .closed (Memory.start.nameKind (c :: tail)) tail.length := by
  rw [read_of_isNameStart .start hstart, Text.takeWhile_append hends hparts]

/-! ## Strings -/

/-- A string ends with the first quote that stands for itself. -/
theorem quotedLength_inside {quote : Char} {content : Text}
    (hinside : Program.staysInside quote content = true) (hquote : quote ≠ '\\') (rest : Text) :
    quotedLength quote (content ++ quote :: rest) = content.length + 1 := by
  fun_induction Program.staysInside quote content with
  | case1 => simp [quotedLength, hquote]
  | case2 => cases hinside
  | case3 c rest ih => simp [quotedLength, ih hinside]
  | case4 c rest hplain ih =>
    simp only [Bool.and_eq_true, decide_eq_true_eq] at hinside
    rw [List.cons_append, quotedLength.eq_3 _ _ _ (by rintro d behind rfl; exact absurd rfl hplain),
      if_neg hinside.1, ih hinside.2]
    rfl

/-- A string in front of anything. -/
theorem read_quoted {quote : Char} {content : Text} (hquote : quote = '"' ∨ quote = '\'')
    (hinside : Program.staysInside quote content = true) (rest : Text) :
    Lexer.read .start quote ((content ++ [quote]) ++ rest) =
      .closed .string (content ++ [quote]).length := by
  have hplain : quote ≠ '\\' := by rcases hquote with rfl | rfl <;> decide
  have hlength := quotedLength_inside hinside hplain rest
  rw [List.append_assoc, List.singleton_append]
  have hread : ∀ text, Lexer.read .start quote text =
      .closed .string (quotedLength quote text) := by
    rcases hquote with rfl | rfl <;> exact fun _ => rfl
  rw [hread, hlength, List.length_append]
  rfl

/-! ## Numbers -/

variable {hex : Bool} {c : Char} {exponent : Text}

/-- A digit or a point of a number is no exponent mark. -/
theorem isExponentMark_of_isNumeralPart (hpart : isNumeralPart hex c = true) :
    isExponentMark hex c = false := by
  rw [Bool.eq_false_iff]
  intro hmark
  cases hex <;>
  · simp only [isExponentMark, Bool.false_eq_true, if_true, if_false, Bool.or_eq_true,
      decide_eq_true_eq] at hmark
    rcases hmark with rfl | rfl <;> exact absurd hpart (by decide)

/-- A decimal digit may stand in every number. -/
theorem isNumeralPart_of_isDigit (hdigit : c.isDigit = true) : isNumeralPart hex c = true := by
  simp [isNumeralPart, hdigit]

/-- A digit or a point is followed by the rest of the number. -/
theorem numeralLength_part (hpart : isNumeralPart hex c = true) (rest : Text) :
    numeralLength hex (c :: rest) = numeralLength hex rest + 1 := by
  have hmark := isExponentMark_of_isNumeralPart hpart
  cases rest <;> simp [numeralLength, hpart, hmark]

/-- Digits are taken one by one, and then the number goes on. -/
theorem numeralLength_parts {digits : Text} (hdigits : ∀ c ∈ digits, isNumeralPart hex c = true)
    (rest : Text) :
    numeralLength hex (digits ++ rest) = digits.length + numeralLength hex rest := by
  induction digits with
  | nil => simp
  | cons c digits ih =>
    rw [List.forall_mem_cons] at hdigits
    rw [List.cons_append, numeralLength_part hdigits.1, ih hdigits.2, List.length_cons]
    omega

/-- The letter of an exponent without a sign. -/
theorem numeralLength_mark (hmark : isExponentMark hex c = true)
    (hrest : ∀ d ∈ rest.head?, d ≠ '+' ∧ d ≠ '-') :
    numeralLength hex (c :: rest) = numeralLength hex rest + 1 := by
  cases rest with
  | nil => simp [numeralLength, hmark]
  | cons d rest => simp [numeralLength, hmark, hrest d rfl]

/-- Behind such a text no number goes on. -/
def StopsNumber (rest : Text) : Prop :=
  ∀ next ∈ rest.head?, isNamePart next = false ∧ next ≠ '.' ∧ next ≠ '+' ∧ next ≠ '-'

/-- An exponent mark is a letter. -/
theorem isNamePart_of_isExponentMark (hmark : isExponentMark hex c = true) :
    isNamePart c = true := by
  cases hex <;>
  · simp only [isExponentMark, Bool.false_eq_true, if_true, if_false, Bool.or_eq_true,
      decide_eq_true_eq] at hmark
    rcases hmark with rfl | rfl <;> rfl

/-- The small letters of ASCII are letters. -/
theorem isAlpha_of_small (hlow : 'a' ≤ c) (hhigh : c ≤ 'z') : c.isAlpha = true := by
  have hlower : c.isLower = true :=
    (Bool.and_eq_true _ _).mpr ⟨decide_eq_true hlow, decide_eq_true hhigh⟩
  exact (Bool.or_eq_true _ _).mpr (.inr hlower)

/-- The capitals of ASCII are letters. -/
theorem isAlpha_of_capital (hlow : 'A' ≤ c) (hhigh : c ≤ 'Z') : c.isAlpha = true := by
  have hupper : c.isUpper = true := decide_eq_true ⟨hlow, hhigh⟩
  exact (Bool.or_eq_true _ _).mpr (.inl hupper)

/-- The digits of numbers are parts of names. -/
theorem isNamePart_of_isNumeralPart (hpart : isNumeralPart hex c = true) (hpoint : c ≠ '.') :
    isNamePart c = true := by
  simp only [isNumeralPart, isHexDigit, Bool.or_eq_true, Bool.and_eq_true, decide_eq_true_eq,
    hpoint, or_false] at hpart
  simp only [isNamePart, Char.isAlphanum, Bool.or_eq_true]
  rcases hpart with hdigit | ⟨-, (hdigit | hlower) | hupper⟩
  · exact .inl (.inr hdigit)
  · exact .inl (.inr hdigit)
  · exact .inl (.inl (isAlpha_of_small hlower.1 (Char.le_trans hlower.2 (by decide))))
  · exact .inl (.inl (isAlpha_of_capital hupper.1 (Char.le_trans hupper.2 (by decide))))

/-- What stops a number adds nothing to it. -/
theorem StopsNumber.numeralLength (hstops : StopsNumber rest) : numeralLength hex rest = 0 := by
  cases rest with
  | nil => rfl
  | cons c behind =>
    obtain ⟨hname, hpoint, -⟩ := hstops c rfl
    have hmark : isExponentMark hex c = false :=
      Bool.eq_false_iff.mpr fun hmark => by
        rw [isNamePart_of_isExponentMark hmark] at hname
        cases hname
    have hpart : isNumeralPart hex c = false :=
      Bool.eq_false_iff.mpr fun hpart => by
        rw [isNamePart_of_isNumeralPart hpart hpoint] at hname
        cases hname
    cases behind <;> simp [Lexer.numeralLength, hmark, hpart]

/-- An exponent is its letter, perhaps a sign, and digits. -/
theorem exists_exponent (hexponent : Program.isExponent hex exponent = true) :
    exponent = [] ∨ ∃ mark sign power, exponent = mark :: (sign ++ power) ∧
      isExponentMark hex mark = true ∧ (sign = [] ∨ sign = ['+'] ∨ sign = ['-']) ∧
      ∀ c ∈ power, c.isDigit = true := by
  fun_cases Program.isExponent hex exponent with
  | case1 => exact Or.inl rfl
  | case2 mark power =>
    rw [Program.isExponent, Bool.and_eq_true, List.all_eq_true] at hexponent
    exact Or.inr ⟨mark, ['+'], power, rfl, hexponent.1, Or.inr (Or.inl rfl), hexponent.2⟩
  | case3 mark power =>
    rw [Program.isExponent, Bool.and_eq_true, List.all_eq_true] at hexponent
    exact Or.inr ⟨mark, ['-'], power, rfl, hexponent.1, Or.inr (Or.inr rfl), hexponent.2⟩
  | case4 mark power hplus hminus =>
    rw [Program.isExponent.eq_4 _ _ _ hplus hminus, Bool.and_eq_true, List.all_eq_true] at hexponent
    exact Or.inr ⟨mark, [], power, rfl, hexponent.1, Or.inl rfl, hexponent.2⟩

/-- An exponent ends where the number does. -/
theorem numeralLength_exponent (hexponent : Program.isExponent hex exponent = true)
    (hstops : StopsNumber rest) : numeralLength hex (exponent ++ rest) = exponent.length := by
  obtain rfl | ⟨mark, sign, power, rfl, hmark, hsign, hpower⟩ := exists_exponent hexponent
  · exact hstops.numeralLength
  · have hdigits : numeralLength hex (power ++ rest) = power.length := by
      rw [numeralLength_parts fun c hc => isNumeralPart_of_isDigit (hpower c hc),
        hstops.numeralLength, Nat.add_zero]
    rcases hsign with rfl | hsign
    · have hplain : ∀ d ∈ (power ++ rest).head?, d ≠ '+' ∧ d ≠ '-' := by
        intro d hd
        cases power with
        | nil => exact (hstops d hd).2.2
        | cons digit power =>
          have hdigit := hpower digit List.mem_cons_self
          cases hd
          constructor <;> rintro rfl <;> cases hdigit
      simp [numeralLength_mark hmark hplain, hdigits]
    · rcases hsign with rfl | rfl <;> simp [numeralLength, hmark, hdigits]

/-- A number in base ten begins with a digit, or with a point and a digit. -/
theorem read_decimal (hfirst : (c.isDigit || (c = '.' && rest.head?.any Char.isDigit)) = true)
    (hbase : ∀ d ∈ rest.head?, d ≠ 'x' ∧ d ≠ 'X') :
    Lexer.read .start c rest = .closed .number (numeralLength false rest) := by
  have hother : ∀ d ∈ [' ', '\t', '\n', '\r', '\x0c', '-', '[', '"', '\''], c ≠ d := by
    intro d hd
    simp only [List.mem_cons, List.not_mem_nil, or_false] at hd
    rcases hd with rfl | rfl | rfl | rfl | rfl | rfl | rfl | rfl | rfl <;>
    · rintro rfl
      cases hfirst
  simp only [List.forall_mem_cons] at hother
  obtain ⟨hspace, htab, hfeed, hreturn, hform, hdash, hbracket, hdouble, hsingle, -⟩ := hother
  have hten : (c = '0' && rest.head?.any fun x => x = 'x' || x = 'X') = false := by
    cases rest with
    | nil => simp
    | cons d rest => simp [hbase d rfl]
  simp only [Lexer.read, isSpace, hspace, htab, hfeed, hreturn, hform, hdash, hbracket, hdouble,
    hsingle, hfirst, hten, decide_false, Bool.or_self, Bool.false_and, Bool.false_eq_true, if_false,
    if_true]

end Lexer

namespace Word

/-- The signs of programs. -/
def signs : List String :=
  ["(", ")", "\x7b", "\x7d", "[", "]", "=", ",", ";", ".", ":"]

/-- The signs of programs are single characters. -/
def signChars : List Char := ['(', ')', '\x7b', '\x7d', '[', ']', '=', ',', ';', '.', ':']

/-- A sign is read alone in front of what it does not go on with. -/
theorem read_sign {c : Char} (hc : c ∈ signChars)
    (hends : EndsBefore ⟨.operator, [c]⟩ rest) :
    Lexer.read .start c rest = .closed .operator 0 := by
  simp only [signChars, List.mem_cons, List.not_mem_nil, or_false] at hc
  cases rest with
  | nil => rcases hc with rfl | rfl | rfl | rfl | rfl | rfl | rfl | rfl | rfl | rfl | rfl <;> rfl
  | cons next behind =>
    have hnext := hends next rfl
    rcases hc with rfl | rfl | rfl | rfl | rfl | rfl | rfl | rfl | rfl | rfl | rfl <;>
    · simp [lengthens] at hnext
      simp [Lexer.read, Lexer.isSpace, Lexer.isNameStart, Lexer.operatorAt?, Lexer.operators,
        Lexer.longOpen?, Lexer.Reading.closed, hnext, eq_comm (b := next)]

/-- A sign is a token of its own. -/
theorem stands_sign {text : String} (htext : text ∈ signs) : (sign text).Stands := by
  have hsingle : ∀ text ∈ signs, text.toList ∈ signChars.map fun c => [c] := by decide
  have hplain : ∀ c ∈ signChars, Document.isBreak c = false := by decide
  obtain ⟨c, hc, hchar⟩ := List.mem_map.mp (hsingle text htext)
  constructor
  · simpa [Document.Unbroken, sign, ← hchar] using hplain c hc
  · refine ⟨c, [], .operator, hchar.symm, rfl, rfl, fun rest hends => read_sign hc ?_⟩
    rwa [sign, ← hchar] at hends

/-- A run of name parts is a token of its own. -/
theorem stands_of_parts {word : Word} {kind : TokenKind}
    (hstarts : word.text.head?.any Lexer.isNameStart = true)
    (hparts : ∀ c ∈ word.text, Lexer.isNamePart c = true)
    (hkind : Lexer.Memory.start.nameKind word.text = kind) (hmeaning : kind.isTrivia = false)
    (hbare : Token.bare ⟨kind, word.text⟩ = word)
    (hlengthens : ∀ next, word.lengthens next = Lexer.isNamePart next) : word.Stands := by
  obtain ⟨c, tail, htext⟩ : ∃ c tail, word.text = c :: tail := by
    cases htext : word.text with
    | nil =>
      rw [htext] at hstarts
      cases hstarts
    | cons c tail => exact ⟨c, tail, rfl⟩
  refine ⟨Document.unbroken_of_forall (Document.forall_isBreak (by decide)) hparts,
    c, tail, kind, htext, hmeaning, hbare, fun rest hends => ?_⟩
  rw [htext] at hstarts hparts hkind
  have hstops : ∀ next ∈ rest.head?, Lexer.isNamePart next = false := fun next hnext =>
    hlengthens next ▸ hends next hnext
  rw [Lexer.read_name hstarts (List.forall_mem_cons.mp hparts).2 hstops, hkind]

/-- A reserved word is a token of its own. -/
theorem stands_keyword {text : String} (htext : text.toList ∈ Words.reserved) :
    (keyword text).Stands := by
  have hreserved : ∀ word ∈ Words.reserved, word.head?.any Lexer.isNameStart = true ∧
      (∀ c ∈ word, Lexer.isNamePart c = true) ∧
      Lexer.Memory.start.nameKind word = .keyword := by
    decide +kernel
  obtain ⟨hstarts, hparts, hkind⟩ := hreserved _ htext
  exact stands_of_parts hstarts hparts hkind rfl rfl fun _ => rfl

end Word

namespace Program

/-- A name is a token of its own. -/
theorem Name.stands (name : Name) : name.word.Stands := by
  have hname : (Lexer.Memory.start.nameKind name.text).isName = true := by
    unfold Lexer.Memory.nameKind
    rw [if_neg (by simp [name.free])]
    split
    · rfl
    · split
      · rfl
      · split <;> rfl
  refine Word.stands_of_parts name.starts name.parts rfl ?_ ?_ fun _ => rfl
  · change (Lexer.Memory.start.nameKind name.text).isTrivia = false
    generalize Lexer.Memory.start.nameKind name.text = kind at hname
    cases kind <;> first | rfl | cases hname
  · change Token.mk (Lexer.Memory.start.nameKind name.text).bare name.text = name.word
    rw [TokenKind.bare, if_pos hname]
    rfl

/-- A short string on one line is a token of its own. -/
theorem Literal.stands (literal : Literal) : literal.word.Stands := by
  have hquote : Document.isBreak literal.quote = false := by
    rcases literal.quoted with hquote | hquote <;> rw [hquote] <;> rfl
  refine ⟨?_, literal.quote, literal.content ++ [literal.quote], .string, rfl, rfl, rfl,
    fun rest _ => Lexer.read_quoted literal.quoted literal.inside rest⟩
  refine List.forall_mem_cons.mpr ⟨hquote, List.forall_mem_append.mpr ⟨literal.unbroken, ?_⟩⟩
  simpa using hquote

/-- The characters of numbers. -/
def isNumeralChar (c : Char) : Bool :=
  Lexer.isNumeralPart true c || Lexer.isExponentMark true c || Lexer.isExponentMark false c ||
    c = '+' || c = '-' || c = 'x' || c = 'X'

/-- What a number takes may stand in one. -/
theorem isNumeralChar_of_isNumeralPart {hex : Bool} {c : Char}
    (hpart : Lexer.isNumeralPart hex c = true) : isNumeralChar c = true := by
  cases hex <;> simp_all [isNumeralChar, Lexer.isNumeralPart]

/-- A number has no other characters. -/
theorem Numeral.isNumeralChar_of_mem (numeral : Numeral) :
    ∀ c ∈ numeral.text, isNumeralChar c = true := by
  have hmantissa : ∀ c ∈ numeral.mantissa, isNumeralChar c = true :=
    fun c hc => isNumeralChar_of_isNumeralPart (numeral.digits c hc)
  have hexponent : ∀ c ∈ numeral.exponent, isNumeralChar c = true := by
    obtain hnil | ⟨mark, sign, power, hexponent, hmark, hsign, hpower⟩ :=
      Lexer.exists_exponent numeral.scaled
    · simp [hnil]
    · rw [hexponent, List.forall_mem_cons, List.forall_mem_append]
      have hdigits : ∀ c ∈ power, Lexer.isNumeralPart true c = true :=
        fun c hc => Lexer.isNumeralPart_of_isDigit (hpower c hc)
      refine ⟨?_, ?_, fun c hc => isNumeralChar_of_isNumeralPart (hdigits c hc)⟩
      · generalize numeral.base.isSome = hex at hmark
        cases hex <;> simp [isNumeralChar, hmark]
      · rcases hsign with rfl | rfl | rfl <;> decide
  rw [Numeral.text, List.forall_mem_append]
  refine ⟨?_, hexponent⟩
  split
  · exact hmantissa
  · rename_i letter hbase
    have hletter : isNumeralChar letter = true := by
      rcases numeral.based letter hbase with rfl | rfl <;> rfl
    exact List.forall_mem_cons.mpr ⟨rfl, List.forall_mem_cons.mpr ⟨hletter, hmantissa⟩⟩

/-- No number in base ten goes on with the letter that would make it one in base sixteen. -/
theorem head_decimal {digits exponent : Text} {d : Char}
    (hdigits : ∀ c ∈ digits, Lexer.isNumeralPart false c = true)
    (hexponent : isExponent false exponent = true) (hstops : Lexer.StopsNumber rest)
    (hd : d ∈ (digits ++ exponent ++ rest).head?) : d ≠ 'x' ∧ d ≠ 'X' := by
  have hclass : Lexer.isNumeralPart false d = true ∨ Lexer.isExponentMark false d = true ∨
      Lexer.isNamePart d = false := by
    cases digits with
    | cons c digits =>
      cases hd
      exact Or.inl (hdigits d List.mem_cons_self)
    | nil =>
      obtain rfl | ⟨mark, sign, power, rfl, hmark, -⟩ := Lexer.exists_exponent hexponent
      · exact Or.inr (Or.inr (hstops d hd).1)
      · cases hd
        exact Or.inr (Or.inl hmark)
  constructor <;>
  · rintro rfl
    revert hclass
    decide

/-- A number ends where no number goes on. -/
theorem Numeral.stopsNumber (numeral : Numeral) (hends : numeral.word.EndsBefore rest) :
    Lexer.StopsNumber rest := by
  intro next hnext
  have hplain := hends next hnext
  simpa [Word.lengthens, Numeral.word, and_assoc] using hplain

/-- A number is a token of its own. -/
theorem Numeral.stands (numeral : Numeral) : numeral.word.Stands := by
  refine ⟨Document.unbroken_of_forall (Document.forall_isBreak (by decide))
    numeral.isNumeralChar_of_mem, ?_⟩
  have hlength : ∀ digits : Text, (∀ c ∈ digits, Lexer.isNumeralPart numeral.base.isSome c = true) →
      ∀ rest, numeral.word.EndsBefore rest → Lexer.numeralLength numeral.base.isSome
        (digits ++ numeral.exponent ++ rest) = (digits ++ numeral.exponent).length := by
    intro digits hdigits rest hends
    rw [List.append_assoc, Lexer.numeralLength_parts hdigits,
      Lexer.numeralLength_exponent numeral.scaled (numeral.stopsNumber hends), List.length_append]
  cases hbase : numeral.base with
  | some letter =>
    rw [hbase] at hlength
    refine ⟨'0', letter :: (numeral.mantissa ++ numeral.exponent), .number,
      by simp [Numeral.word, Numeral.text, hbase], rfl, rfl, fun rest hends => ?_⟩
    have hread : ∀ text, Lexer.read .start '0' (letter :: text) =
        .closed .number (Lexer.numeralLength true text + 1) := by
      rcases numeral.based letter hbase with rfl | rfl <;> exact fun _ => rfl
    have hdigits : ∀ c ∈ numeral.mantissa, Lexer.isNumeralPart true c = true := by
      simpa [hbase] using numeral.digits
    rw [List.cons_append, hread, ← Option.isSome_some (a := letter), hlength _ hdigits rest hends,
      List.length_cons]
  | none =>
    obtain ⟨c, digits, hmantissa⟩ : ∃ c digits, numeral.mantissa = c :: digits := by
      cases hmantissa : numeral.mantissa with
      | cons c digits => exact ⟨c, digits, rfl⟩
      | nil => simpa [hmantissa] using numeral.starts hbase
    have hdigits : ∀ c ∈ digits, Lexer.isNumeralPart false c = true := by
      have hall := numeral.digits
      rw [hmantissa, hbase] at hall
      exact (List.forall_mem_cons.mp hall).2
    have hscaled := numeral.scaled
    rw [hbase] at hlength hscaled
    refine ⟨c, digits ++ numeral.exponent, .number,
      by simp [Numeral.word, Numeral.text, hbase, hmantissa], rfl, rfl, fun rest hends => ?_⟩
    rw [Lexer.read_decimal ?_ fun d hd =>
        head_decimal hdigits hscaled (numeral.stopsNumber hends) hd,
      ← @Option.isSome_none Char, hlength digits hdigits rest hends]
    rcases numeral.starts hbase with hdigit | ⟨hpoint, hdigit⟩
    · rw [hmantissa] at hdigit
      simpa using Or.inl hdigit
    · rw [hmantissa] at hpoint hdigit
      cases hpoint
      cases digits with
      | nil => cases hdigit
      | cons d digits => simpa using hdigit

end Program

end LuaAssist

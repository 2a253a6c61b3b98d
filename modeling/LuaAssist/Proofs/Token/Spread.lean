import LuaAssist.Proofs.Text.Utf8
import LuaAssist.Proofs.Token.OpenToken

/-!
# Reading bytes in the place of characters

Every character that means something to the lexer is ASCII, and no byte of any other character
is. So a line may be read byte by byte: a token that starts with an ASCII character takes just
the bytes of the characters that it takes, also where an escape steps over one byte of a longer
character.
-/

namespace LuaAssist.Lexer

/-- A character of one byte. -/
def IsAscii (c : Char) : Prop := c.toNat < 0x80

instance (c : Char) : Decidable (IsAscii c) := inferInstanceAs (Decidable (_ < _))

/-- A byte, seen as the character with its number. -/
def ofByte (byte : UInt8) : Char := Char.ofNat byte.toNat

/-- The bytes of a text, seen as characters. -/
def spread (text : Text) : Text := (Text.toUtf8 text).map ofByte

/-- A byte as a character has its own code. -/
theorem toNat_ofByte (byte : UInt8) : (ofByte byte).toNat = byte.toNat := by
  have hbyte := byte.toNat_lt
  have hvalid : byte.toNat.isValidChar := .inl (by omega)
  rw [ofByte, Char.ofNat, dif_pos hvalid]
  rfl

/-- A character of ASCII is its own byte. -/
theorem utf8Char_of_isAscii {c : Char} (hc : IsAscii c) :
    Text.utf8Char c = [UInt8.ofNat c.toNat] := by
  simp only [IsAscii] at hc
  simp [Text.utf8Char, hc]

/-- The one byte of an ASCII character is that character. -/
theorem ofByte_of_isAscii {c : Char} (hc : IsAscii c) : ofByte (UInt8.ofNat c.toNat) = c := by
  simp only [IsAscii] at hc
  have hback : (UInt8.ofNat c.toNat).toNat = c.toNat := by
    simp only [UInt8.toNat_ofNat']
    omega
  rw [ofByte, hback, Char.ofNat_toNat]

/-- No byte of another character is ASCII. -/
theorem not_isAscii_of_mem {c : Char} (hc : ¬ IsAscii c) :
    ∀ byte ∈ Text.utf8Char c, ¬ byte.toNat < 0x80 := by
  simp only [IsAscii] at hc
  have hvalid := Text.toNat_bounds c
  intro byte hbyte
  simp only [Text.utf8Char, hc, if_false] at hbyte
  split at hbyte
  · simp only [List.mem_cons, List.not_mem_nil, or_false] at hbyte
    rcases hbyte with rfl | rfl
    · simp only [UInt8.toNat_ofNat']
      omega
    · rw [Text.continuation_toNat]
      omega
  split at hbyte
  · simp only [List.mem_cons, List.not_mem_nil, or_false] at hbyte
    rcases hbyte with rfl | rfl | rfl
    · simp only [UInt8.toNat_ofNat']
      omega
    all_goals rw [Text.continuation_toNat]; omega
  · simp only [List.mem_cons, List.not_mem_nil, or_false] at hbyte
    rcases hbyte with rfl | rfl | rfl | rfl
    · simp only [UInt8.toNat_ofNat']
      omega
    all_goals rw [Text.continuation_toNat]; omega

/-- Nothing has no bytes. -/
@[simp] theorem spread_nil : spread [] = [] := rfl

/-- Texts are spread one after the other. -/
theorem spread_append (text other : Text) :
    spread (text ++ other) = spread text ++ spread other := by
  simp [spread, Text.toUtf8_append]

/-- A spread text has a character for each byte. -/
theorem length_spread (text : Text) : (spread text).length = Text.utf8Length text := by
  rw [spread, List.length_map, Text.length_toUtf8]

/-- An ASCII character stays where it is. -/
theorem spread_cons_of_isAscii {c : Char} (hc : IsAscii c) (rest : Text) :
    spread (c :: rest) = c :: spread rest := by
  simp [spread, utf8Char_of_isAscii hc, ofByte_of_isAscii hc]

/-- Any other character spreads over characters of which none is ASCII either. -/
theorem exists_spread_cons {c : Char} (hc : ¬ IsAscii c) : ∃ first others,
    ¬ IsAscii first ∧ (∀ d ∈ others, ¬ IsAscii d) ∧ others.length + 1 = Text.utf8Width c ∧
      ∀ rest, spread (c :: rest) = first :: (others ++ spread rest) := by
  obtain ⟨first, others, hbytes, -⟩ := Text.readChar_utf8Char c
  have hwide := not_isAscii_of_mem hc
  rw [hbytes, List.forall_mem_cons] at hwide
  refine ⟨ofByte first, others.map ofByte, ?_, ?_, ?_, fun rest => ?_⟩
  · rw [IsAscii, toNat_ofByte]
    exact hwide.1
  · intro d hd
    obtain ⟨byte, hbyte, rfl⟩ := List.mem_map.mp hd
    rw [IsAscii, toNat_ofByte]
    exact hwide.2 byte hbyte
  · rw [List.length_map, ← Text.length_utf8Char, hbytes, List.length_cons]
  · simp [spread, hbytes]

/-- Characters of ASCII have one byte each. -/
theorem utf8Length_of_isAscii {text : Text} (htext : ∀ c ∈ text, IsAscii c) :
    Text.utf8Length text = text.length := by
  induction text with
  | nil => rfl
  | cons c rest ih =>
    rw [List.forall_mem_cons] at htext
    have hwidth : Text.utf8Width c = 1 := if_pos htext.1
    rw [Text.utf8Length, hwidth, ih htext.2, List.length_cons, Nat.add_comm]

/-- What stands behind the bytes of a front is what stands behind that front. -/
theorem drop_spread (length : Nat) (text : Text) :
    (spread text).drop (Text.utf8Length (text.take length)) = spread (text.drop length) := by
  conv => lhs; rw [← List.take_append_drop length text, spread_append, List.take_append_drop,
    ← length_spread, List.drop_left]

/-! ## Runs of characters -/

variable {test : Char → Bool} (htest : ∀ c, test c = true → IsAscii c)

include htest

/-- A test that only ASCII passes fails on every other character. -/
theorem eq_false_of_not_isAscii {c : Char} (hc : ¬ IsAscii c) : test c = false :=
  Bool.eq_false_iff.mpr fun h => hc (htest c h)

/-- The first byte passes a test that only ASCII passes where the first character does. -/
theorem any_head?_spread (text : Text) : (spread text).head?.any test = text.head?.any test := by
  cases text with
  | nil => rfl
  | cons c rest =>
    by_cases hc : IsAscii c
    · rw [spread_cons_of_isAscii hc]
      rfl
    · obtain ⟨first, others, hfirst, -, -, hspread⟩ := exists_spread_cons hc
      simp [hspread, eq_false_of_not_isAscii htest hfirst, eq_false_of_not_isAscii htest hc]

/-- A run of ASCII characters is a run of bytes. -/
theorem takeWhile_spread (text : Text) : (spread text).takeWhile test = text.takeWhile test := by
  induction text with
  | nil => rfl
  | cons c rest ih =>
    by_cases hc : IsAscii c
    · rw [spread_cons_of_isAscii hc, List.takeWhile_cons, List.takeWhile_cons, ih]
    · obtain ⟨first, others, hfirst, -, -, hspread⟩ := exists_spread_cons hc
      simp [hspread, eq_false_of_not_isAscii htest hfirst, eq_false_of_not_isAscii htest hc]

/-- What stands behind such a run are the bytes of what stands behind it. -/
theorem dropWhile_spread (text : Text) :
    (spread text).dropWhile test = spread (text.dropWhile test) := by
  induction text with
  | nil => rfl
  | cons c rest ih =>
    by_cases hc : IsAscii c
    · rw [spread_cons_of_isAscii hc, List.dropWhile_cons, List.dropWhile_cons, ih]
      split
      · rfl
      · rw [spread_cons_of_isAscii hc]
    · obtain ⟨first, others, hfirst, -, -, hspread⟩ := exists_spread_cons hc
      rw [List.dropWhile_cons, if_neg (by simp [eq_false_of_not_isAscii htest hc]), hspread,
        List.dropWhile_cons, if_neg (by simp [eq_false_of_not_isAscii htest hfirst])]

omit htest

/-- A text starts with a given ASCII character where its bytes do. -/
theorem head?_spread {mark : Char} (hmark : IsAscii mark) (text : Text) :
    (spread text).head? = some mark ↔ text.head? = some mark := by
  have hmarks : ∀ c, decide (c = mark) = true → IsAscii c :=
    fun c hc => of_decide_eq_true hc ▸ hmark
  have hany := any_head?_spread hmarks text
  have htold : ∀ first : Option Char, first.any (fun c => c = mark) = true ↔ first = some mark := by
    rintro (_ | first) <;> simp
  rw [← htold, ← htold, hany]

/-! ## Long brackets -/

/-- A long bracket opens a text if it opens its bytes. -/
theorem longOpen?_spread (text : Text) : longOpen? (spread text) = longOpen? text := by
  have hlevel : ∀ c : Char, decide (c = '=') = true → IsAscii c := fun c hc =>
    of_decide_eq_true hc ▸ by decide
  simp only [longOpen?_eq, takeWhile_spread hlevel, dropWhile_spread hlevel,
    head?_spread (by decide : IsAscii '[')]

/-- Another character than ASCII closes no long bracket. -/
theorem longCloses_of_not_isAscii {c : Char} (hc : ¬ IsAscii c) (level : Nat) (rest : Text) :
    longCloses level (c :: rest) = false := by
  unfold longCloses
  split
  · rename_i heq
    cases heq
    exact absurd (by decide) hc
  · rfl

/-- So it is with a closing one. -/
theorem longCloses_spread (level : Nat) (text : Text) :
    longCloses level (spread text) = longCloses level text := by
  have hlevel : ∀ c : Char, decide (c = '=') = true → IsAscii c := fun c hc =>
    of_decide_eq_true hc ▸ by decide
  cases text with
  | nil => rfl
  | cons c rest =>
    by_cases hc : IsAscii c
    · rw [spread_cons_of_isAscii hc]
      by_cases hclose : c = ']'
      · subst hclose
        simp only [longCloses, takeWhile_spread hlevel, dropWhile_spread hlevel,
          head?_spread (by decide : IsAscii ']')]
      · simp [longCloses, hclose]
    · obtain ⟨first, others, hfirst, -, -, hspread⟩ := exists_spread_cons hc
      rw [hspread, longCloses_of_not_isAscii hfirst, longCloses_of_not_isAscii hc]

/-- A closing long bracket has as many bytes as characters. -/
theorem utf8Length_of_longCloses {level : Nat} {text : Text}
    (hcloses : longCloses level text = true) :
    Text.utf8Length (text.take (level + 2)) = level + 2 := by
  obtain ⟨body, rfl⟩ := longCloses_iff.mp hcloses
  have htake : (']' :: (List.replicate level '=' ++ ']' :: body)).take (level + 2) =
      ']' :: (List.replicate level '=' ++ [']']) := by simp [List.take_append]
  rw [htake, utf8Length_of_isAscii]
  · simp
  · rw [List.forall_mem_cons, List.forall_mem_append]
    refine ⟨by decide, fun c hc => ?_, by decide⟩
    rw [List.eq_of_mem_replicate hc]
    decide

/-- A long bracket closes among the bytes where it closes among the characters. -/
theorem longClose?_spread (level : Nat) (text : Text) :
    longClose? level (spread text) =
      (longClose? level text).map fun length => Text.utf8Length (text.take length) := by
  induction text with
  | nil => rfl
  | cons c rest ih =>
    have hskip : ((longClose? level rest).map fun length => Text.utf8Length (rest.take length)).map
        (Text.utf8Width c + ·) = ((longClose? level rest).map (· + 1)).map
          fun length => Text.utf8Length ((c :: rest).take length) := by
      simp only [Option.map_map]
      rfl
    by_cases hc : IsAscii c
    · have hsame := longCloses_spread level (c :: rest)
      have hwidth : Text.utf8Width c = 1 := if_pos hc
      rw [spread_cons_of_isAscii hc] at hsame ⊢
      rw [longClose?, longClose?, hsame]
      by_cases hhere : longCloses level (c :: rest) = true
      · rw [if_pos hhere, if_pos hhere, Option.map_some, utf8Length_of_longCloses hhere]
      · rw [if_neg hhere, if_neg hhere, ih, ← hskip, hwidth]
        simp only [Nat.add_comm]
    · obtain ⟨first, others, hfirst, hothers, hwidth, hspread⟩ := exists_spread_cons hc
      have hwide : ∀ d ∈ first :: others, ¬ IsAscii d := List.forall_mem_cons.mpr ⟨hfirst, hothers⟩
      have hsign : ∀ d ∈ first :: others, d ≠ ']' := by
        rintro d hd rfl
        exact hwide _ hd (by decide)
      rw [hspread, ← List.cons_append, longClose?_append_left hsign, ih, List.length_cons, hwidth,
        hskip, longClose?, if_neg (by simp [longCloses_of_not_isAscii hc])]

/-! ## Short tokens -/

/-- Characters that are not ASCII do not end a quoted string. -/
theorem quotedLength_append_wide {wide : Text} {quote : Char} (hquote : IsAscii quote)
    (hwide : ∀ c ∈ wide, ¬ IsAscii c) (text : Text) :
    quotedLength quote (wide ++ text) = wide.length + quotedLength quote text := by
  induction wide with
  | nil => simp
  | cons c wide ih =>
    rw [List.forall_mem_cons] at hwide
    have hescape : c ≠ '\\' := by
      rintro rfl
      exact hwide.1 (by decide)
    have hother : c ≠ quote := by
      rintro rfl
      exact hwide.1 hquote
    rw [List.cons_append, quotedLength_cons (fun h => absurd h hescape), if_neg hother,
      ih hwide.2, List.length_cons]
    omega

/-- A quoted string takes the bytes of its characters. An escape steps over one byte only, but
the further bytes of an escaped character neither end the string nor escape anything. -/
theorem quotedLength_spread {quote : Char} (hquote : IsAscii quote) (text : Text) :
    quotedLength quote (spread text) =
      Text.utf8Length (text.take (quotedLength quote text)) := by
  fun_induction quotedLength quote text with
  | case1 => rfl
  | case2 escaped rest ih =>
    have hbackslash : IsAscii '\\' := by decide
    rw [spread_cons_of_isAscii hbackslash]
    simp only [List.take_succ_cons, Text.utf8Length, ← ih]
    have hone : Text.utf8Width '\\' = 1 := rfl
    by_cases hescaped : IsAscii escaped
    · have hwidth : Text.utf8Width escaped = 1 := if_pos hescaped
      rw [spread_cons_of_isAscii hescaped, quotedLength, hone, hwidth]
      omega
    · obtain ⟨first, others, -, hothers, hwidth, hspread⟩ := exists_spread_cons hescaped
      rw [hspread, quotedLength, quotedLength_append_wide hquote hothers]
      omega
  | case3 rest hplain =>
    have hlast : quote = '\\' → spread rest = [] := by
      intro hescape
      cases rest with
      | nil => rfl
      | cons escaped behind => exact (hplain escaped behind hescape rfl).elim
    have hone : Text.utf8Width quote = 1 := if_pos hquote
    rw [spread_cons_of_isAscii hquote, quotedLength_cons hlast, if_pos rfl]
    simp [Text.utf8Length, hone]
  | case4 c rest hplain hother ih =>
    rw [List.take_succ_cons, Text.utf8Length, ← ih]
    by_cases hc : IsAscii c
    · have hlast : c = '\\' → spread rest = [] := by
        intro hescape
        cases rest with
        | nil => rfl
        | cons escaped behind => exact (hplain escaped behind hescape rfl).elim
      have hone : Text.utf8Width c = 1 := if_pos hc
      rw [spread_cons_of_isAscii hc, quotedLength_cons hlast, if_neg hother, hone, Nat.add_comm]
    · obtain ⟨first, others, hfirst, hothers, hwidth, hspread⟩ := exists_spread_cons hc
      have hwide : ∀ d ∈ first :: others, ¬ IsAscii d := List.forall_mem_cons.mpr ⟨hfirst, hothers⟩
      rw [hspread, ← List.cons_append, quotedLength_append_wide hquote hwide, List.length_cons,
        hwidth]

/-- A sign of a number is ASCII. -/
theorem isAscii_of_isSign {c : Char} (hc : isSign c = true) : IsAscii c := by
  simp only [isSign, Bool.or_eq_true, decide_eq_true_eq] at hc
  rcases hc with rfl | rfl <;> decide

/-- So is a digit. -/
theorem isAscii_of_isDigit {c : Char} (hc : c.isDigit = true) : IsAscii c := by
  simp only [Char.isDigit, Bool.and_eq_true, decide_eq_true_eq, UInt32.le_iff_toNat_le] at hc
  exact Nat.lt_of_le_of_lt hc.2 (by decide)

/-- So is the mark of an exponent. -/
theorem isAscii_of_isExponentMark {hex : Bool} {c : Char} (hc : isExponentMark hex c = true) :
    IsAscii c := by
  cases hex <;>
    simp only [isExponentMark, Bool.or_eq_true, decide_eq_true_eq, if_true, if_false,
      Bool.false_eq_true] at hc
  all_goals rcases hc with rfl | rfl <;> decide

/-- So is a digit of base sixteen. -/
theorem isAscii_of_isHexDigit {c : Char} (hc : isHexDigit c = true) : IsAscii c := by
  simp only [isHexDigit, Bool.or_eq_true, Bool.and_eq_true, decide_eq_true_eq] at hc
  rcases hc with (hc | hc) | hc
  · exact isAscii_of_isDigit hc
  · exact Nat.lt_of_le_of_lt hc.2 (by decide)
  · exact Nat.lt_of_le_of_lt hc.2 (by decide)

/-- So is all that stands in a number. -/
theorem isAscii_of_isNumeralPart {hex : Bool} {c : Char} (hc : isNumeralPart hex c = true) :
    IsAscii c := by
  simp only [isNumeralPart, Bool.or_eq_true, Bool.and_eq_true, decide_eq_true_eq] at hc
  rcases hc with (hc | rfl) | hc
  · exact isAscii_of_isDigit hc
  · decide
  · exact isAscii_of_isHexDigit hc.2

/-- The characters of a numeral are digits, points, letters of an exponent and its signs. -/
theorem numeral_characters (hex : Bool) (text : Text) :
    ∀ c ∈ text.take (numeralLength hex text),
      isExponentMark hex c = true ∨ isNumeralPart hex c = true ∨ isSign c = true := by
  fun_induction numeralLength hex text with
  | case1 => exact List.forall_mem_nil _
  | case2 c hpart =>
    rw [Bool.or_eq_true] at hpart
    simpa using hpart.imp_right Or.inl
  | case3 c hpart => exact List.forall_mem_nil _
  | case4 c d rest hmark hsign ih =>
    have hd : isSign d = true := by simpa [isSign] using hsign
    exact List.forall_mem_cons.mpr ⟨Or.inl hmark,
      List.forall_mem_cons.mpr ⟨Or.inr (Or.inr hd), ih⟩⟩
  | case5 c d rest hmark hsign ih => exact List.forall_mem_cons.mpr ⟨Or.inl hmark, ih⟩
  | case6 c d rest hmark hpart ih =>
    exact List.forall_mem_cons.mpr ⟨Or.inr (Or.inl hpart), ih⟩
  | case7 c d rest hmark hpart => exact List.forall_mem_nil _

/-- A numeral is ASCII. -/
theorem isAscii_numeral (hex : Bool) (text : Text) :
    ∀ c ∈ text.take (numeralLength hex text), IsAscii c := by
  intro c hmem
  rcases numeral_characters hex text c hmem with hmark | hpart | hsign
  · exact isAscii_of_isExponentMark hmark
  · exact isAscii_of_isNumeralPart hpart
  · exact isAscii_of_isSign hsign

/-- What is no numeral has no numeral among its bytes. -/
theorem numeralLength_spread_of_not {hex : Bool} {c : Char}
    (hmark : ¬ isExponentMark hex c = true) (hpart : ¬ isNumeralPart hex c = true) (rest : Text) :
    numeralLength hex (spread (c :: rest)) = 0 := by
  by_cases hc : IsAscii c
  · rw [spread_cons_of_isAscii hc, numeralLength_cons, if_neg hmark, if_neg hpart]
  · obtain ⟨first, others, hfirst, -, -, hspread⟩ := exists_spread_cons hc
    rw [hspread, numeralLength_cons, if_neg fun h => hfirst (isAscii_of_isExponentMark h),
      if_neg fun h => hfirst (isAscii_of_isNumeralPart h)]

/-- A numeral takes as many bytes as characters. -/
theorem numeralLength_spread (hex : Bool) (text : Text) :
    numeralLength hex (spread text) = numeralLength hex text := by
  fun_induction numeralLength hex text with
  | case1 => rfl
  | case2 c hpart =>
    rw [Bool.or_eq_true] at hpart
    have hc := hpart.elim isAscii_of_isExponentMark isAscii_of_isNumeralPart
    rw [spread_cons_of_isAscii hc, spread_nil, numeralLength, if_pos (by simpa using hpart)]
  | case3 c hpart =>
    rw [Bool.or_eq_true, not_or] at hpart
    exact numeralLength_spread_of_not hpart.1 hpart.2 []
  | case4 c d rest hmark hsign ih =>
    have hd : isSign d = true := by simpa [isSign] using hsign
    rw [spread_cons_of_isAscii (isAscii_of_isExponentMark hmark),
      spread_cons_of_isAscii (isAscii_of_isSign hd), numeralLength, if_pos hmark, if_pos hsign, ih]
  | case5 c d rest hmark hsign ih =>
    have hd : ¬ (spread (d :: rest)).head?.any isSign = true := by
      rw [any_head?_spread fun _ => isAscii_of_isSign]
      simpa [isSign] using hsign
    rw [spread_cons_of_isAscii (isAscii_of_isExponentMark hmark), numeralLength_cons, if_pos hmark,
      if_neg hd, ih]
  | case6 c d rest hmark hpart ih =>
    rw [spread_cons_of_isAscii (isAscii_of_isNumeralPart hpart), numeralLength_cons, if_neg hmark,
      if_pos hpart, ih]
  | case7 c d rest hmark hpart => exact numeralLength_spread_of_not hmark hpart _

/-- The bytes of a text start with an ASCII text where the text does. -/
theorem isPrefixOf_spread {front : Text} (hfront : ∀ c ∈ front, IsAscii c) (text : Text) :
    front.isPrefixOf (spread text) = front.isPrefixOf text := by
  induction front generalizing text with
  | nil => simp
  | cons first front ih =>
    rw [List.forall_mem_cons] at hfront
    cases text with
    | nil => rfl
    | cons c rest =>
      by_cases hc : IsAscii c
      · rw [spread_cons_of_isAscii hc, List.isPrefixOf, List.isPrefixOf, ih hfront.2]
      · obtain ⟨byte, others, hbyte, -, -, hspread⟩ := exists_spread_cons hc
        have hnot : ∀ d, ¬ IsAscii d → (first == d) = false := by
          intro d hd
          rw [beq_eq_false_iff_ne]
          rintro rfl
          exact hd hfront.1
        rw [hspread, List.isPrefixOf, List.isPrefixOf, hnot byte hbyte, hnot c hc]
        rfl

/-- The operators are ASCII. -/
theorem isAscii_operators : ∀ op ∈ operators, ∀ c ∈ op, IsAscii c := by
  decide +kernel

/-- A text begins with the operator that its bytes begin with. -/
theorem operatorAt?_spread (text : Text) : operatorAt? (spread text) = operatorAt? text := by
  have hplain := isAscii_operators
  unfold operatorAt?
  generalize operators = table at hplain
  induction table with
  | nil => rfl
  | cons op table ih =>
    rw [List.forall_mem_cons] at hplain
    rw [List.find?_cons, List.find?_cons, isPrefixOf_spread hplain.1, ih hplain.2]

end LuaAssist.Lexer

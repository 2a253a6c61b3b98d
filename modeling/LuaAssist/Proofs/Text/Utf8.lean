import LuaAssist.Text.Utf8

/-!
# Bytes of a text are read back

The bytes of a character begin with one from which the number of the others follows, and
reading takes just these. So the bytes of a text are read as that text, and they are as many
as its length in bytes says.
-/

namespace LuaAssist.Text

/-- The six bits of a number at a place. -/
def sextet (code place : Nat) : Nat := (code >>> (6 * place)) % 64

/-- The lowest six bits. -/
theorem sextet_zero (code : Nat) : sextet code 0 = code % 64 := by simp [sextet]

/-- The next six bits. -/
theorem sextet_one (code : Nat) : sextet code 1 = code / 64 % 64 := by
  simp [sextet, Nat.shiftRight_eq_div_pow]

/-- The third six bits. -/
theorem sextet_two (code : Nat) : sextet code 2 = code / 4096 % 64 := by
  simp [sextet, Nat.shiftRight_eq_div_pow]

/-- They stand above the mark of a continuing byte. -/
theorem continuation_toNat (code place : Nat) :
    (continuation code place).toNat = 0x80 + sextet code place := by
  simp only [continuation, sextet, UInt8.toNat_ofNat']
  omega

/-- A byte for a number below 256 is that number. -/
private theorem toNat_ofNat_of_lt {n : Nat} (hn : n < 256) : (UInt8.ofNat n).toNat = n := by
  simp only [UInt8.toNat_ofNat']
  omega

/-- Reading takes a continuing byte whose bits lie in the range that is asked for. -/
theorem readMore_continuation {low high code : Nat} (n place count : Nat) (rest : List UInt8)
    (hlow : low ≤ 0x80 + sextet n place) (hhigh : 0x80 + sextet n place ≤ high) :
    readMore (count + 1) low high code (continuation n place :: rest) =
      ((readMore count 0x80 0xBF (code * 64 + sextet n place) rest).1 + 1,
        (readMore count 0x80 0xBF (code * 64 + sextet n place) rest).2) := by
  have hin : (low ≤ (continuation n place).toNat &&
      (continuation n place).toNat ≤ high) = true := by
    simp only [continuation_toNat, Bool.and_eq_true, decide_eq_true_eq]
    exact ⟨hlow, hhigh⟩
  have hbits : (continuation n place).toNat - 0x80 = sextet n place := by
    rw [continuation_toNat]
    omega
  simp only [readMore, hin, if_true, hbits]

/-- Where every continuing byte is asked for, its bits are taken. -/
theorem readMore_any (count code n place : Nat) (rest : List UInt8) :
    readMore (count + 1) 0x80 0xBF code (continuation n place :: rest) =
      ((readMore count 0x80 0xBF (code * 64 + sextet n place) rest).1 + 1,
        (readMore count 0x80 0xBF (code * 64 + sextet n place) rest).2) :=
  have hbits : sextet n place < 64 := Nat.mod_lt _ (by decide)
  readMore_continuation n place count rest (by omega) (by omega)

/-- Reading nothing more leaves the code as it is. -/
theorem readMore_zero (low high code : Nat) (rest : List UInt8) :
    readMore 0 low high code rest = (0, code) := by
  cases rest <;> rfl

/-- The number of a character is no surrogate and below the limit. -/
theorem toNat_bounds (c : Char) :
    c.toNat < 0xD800 ∨ 0xDFFF < c.toNat ∧ c.toNat < 0x110000 := c.valid

/-- The first of two bytes asks for one more. -/
private theorem lead?_two {n : Nat} (hlow : 0x80 ≤ n) (hhigh : n < 0x800) :
    lead? (UInt8.ofNat (0xC0 + n / 64)).toNat = some ⟨1, n / 64, 0x80, 0xBF⟩ := by
  rw [toNat_ofNat_of_lt (by omega)]
  unfold lead?
  rw [if_neg (by omega), if_neg (by omega), if_pos (by omega)]
  simp

/-- The first of three bytes asks for two more, and the second of them is in its range. -/
private theorem lead?_three {n : Nat} (hlow : 0x800 ≤ n) (hhigh : n < 0x10000)
    (hvalid : n < 0xD800 ∨ 0xDFFF < n) : ∃ low high,
      lead? (UInt8.ofNat (0xE0 + n / 4096)).toNat = some ⟨2, n / 4096, low, high⟩ ∧
        low ≤ 0x80 + n / 64 % 64 ∧ 0x80 + n / 64 % 64 ≤ high := by
  rw [toNat_ofNat_of_lt (by omega)]
  unfold lead?
  rw [if_neg (by omega), if_neg (by omega), if_neg (by omega)]
  by_cases hzero : n / 4096 = 0
  · exact ⟨0xA0, 0xBF, by simp [hzero], by omega, by omega⟩
  rw [if_neg (by omega)]
  by_cases hsurrogate : n / 4096 = 0xD
  · exact ⟨0x80, 0x9F, by simp [hsurrogate], by omega, by omega⟩
  rw [if_neg (by omega), if_pos (by omega)]
  exact ⟨0x80, 0xBF, by simp, by omega, by omega⟩

/-- The first of four bytes asks for three more, and the second of them is in its range. -/
private theorem lead?_four {n : Nat} (hlow : 0x10000 ≤ n) (hhigh : n < 0x110000) : ∃ low high,
      lead? (UInt8.ofNat (0xF0 + n / 262144)).toNat = some ⟨3, n / 262144, low, high⟩ ∧
        low ≤ 0x80 + n / 4096 % 64 ∧ 0x80 + n / 4096 % 64 ≤ high := by
  rw [toNat_ofNat_of_lt (by omega)]
  unfold lead?
  iterate 6 rw [if_neg (by omega)]
  by_cases hzero : n / 262144 = 0
  · exact ⟨0x90, 0xBF, by simp [hzero], by omega, by omega⟩
  rw [if_neg (by omega)]
  by_cases hlast : n / 262144 = 4
  · exact ⟨0x80, 0x8F, by simp [hlast], by omega, by omega⟩
  rw [if_pos (by omega)]
  exact ⟨0x80, 0xBF, by simp, by omega, by omega⟩

/-- The bytes of a character are a first byte and others, and reading these gives it back,
whatever stands behind them. -/
theorem readChar_utf8Char (c : Char) : ∃ first others, utf8Char c = first :: others ∧
    ∀ rest, readChar first (others ++ rest) = (some c, others.length) := by
  have hvalid := toNat_bounds c
  have hback : Char.ofNat c.toNat = c := Char.ofNat_toNat c
  generalize hn : c.toNat = n at hvalid hback
  unfold utf8Char
  simp only [hn]
  by_cases hone : n < 0x80
  · rw [if_pos hone]
    refine ⟨_, [], rfl, fun rest => ?_⟩
    simp [readChar, toNat_ofNat_of_lt (show n < 256 by omega), lead?, hone, readMore_zero, hback]
  rw [if_neg hone]
  by_cases htwo : n < 0x800
  · rw [if_pos htwo]
    refine ⟨_, _, rfl, fun rest => ?_⟩
    have hcode : n / 64 * 64 + sextet n 0 = n := by
      rw [sextet_zero]
      omega
    simp only [readChar, lead?_two (by omega) htwo, List.cons_append, List.nil_append,
      readMore_any, readMore_zero, hcode, hback]
    rfl
  rw [if_neg htwo]
  by_cases hthree : n < 0x10000
  · rw [if_pos hthree]
    obtain ⟨low, high, hlead, hlow, hhigh⟩ := lead?_three (by omega) hthree (by omega)
    refine ⟨_, _, rfl, fun rest => ?_⟩
    rw [← sextet_one] at hlow hhigh
    have hcode : (n / 4096 * 64 + sextet n 1) * 64 + sextet n 0 = n := by
      rw [sextet_zero, sextet_one]
      omega
    simp only [readChar, hlead, List.cons_append, List.nil_append,
      readMore_continuation n 1 1 _ hlow hhigh, readMore_any, readMore_zero, hcode, hback]
    rfl
  rw [if_neg hthree]
  obtain ⟨low, high, hlead, hlow, hhigh⟩ := lead?_four (n := n) (by omega) (by omega)
  refine ⟨_, _, rfl, fun rest => ?_⟩
  rw [← sextet_two] at hlow hhigh
  have hcode : ((n / 262144 * 64 + sextet n 2) * 64 + sextet n 1) * 64 + sextet n 0 = n := by
    rw [sextet_zero, sextet_one, sextet_two]
    omega
  simp only [readChar, hlead, List.cons_append, List.nil_append,
    readMore_continuation n 2 2 _ hlow hhigh, readMore_any, readMore_zero, hcode, hback]
  rfl

/-- The bytes of a text with a character in front. -/
@[simp] theorem toUtf8_nil : toUtf8 [] = [] := rfl

/-- A text is encoded character by character. -/
@[simp] theorem toUtf8_cons (c : Char) (text : Text) :
    toUtf8 (c :: text) = utf8Char c ++ toUtf8 text := rfl

/-- Texts are encoded one after the other. -/
theorem toUtf8_append (text other : Text) :
    toUtf8 (text ++ other) = toUtf8 text ++ toUtf8 other := by
  simp [toUtf8]

/-- The bytes of a text are read as its characters. -/
theorem readUtf8_toUtf8 (text : Text) : readUtf8 (toUtf8 text) = text.map some := by
  induction text with
  | nil => simp [readUtf8]
  | cons c rest ih =>
    obtain ⟨first, others, hbytes, hread⟩ := readChar_utf8Char c
    rw [toUtf8_cons, hbytes, List.cons_append, readUtf8]
    simp only [hread, List.drop_left, ih, List.map_cons]

/-- The bytes of a text are UTF-8, and the text is what they say. -/
theorem ofUtf8?_toUtf8 (text : Text) : ofUtf8? (toUtf8 text) = some text := by
  rw [ofUtf8?, readUtf8_toUtf8]
  induction text with
  | nil => rfl
  | cons c rest ih => simp [List.mapM_cons, ih]

/-- A character has as many bytes as its width says. -/
theorem length_utf8Char (c : Char) : (utf8Char c).length = utf8Width c := by
  simp only [utf8Char, utf8Width]
  split <;> try split <;> try split
  all_goals rfl

/-- A text has as many bytes as its length in bytes says. -/
theorem length_toUtf8 (text : Text) : (toUtf8 text).length = utf8Length text := by
  induction text with
  | nil => rfl
  | cons c rest ih => simp [length_utf8Char, utf8Length, ih]

end LuaAssist.Text

import LuaAssist.Text.Alphanumeric
import LuaAssist.Text.Blank

/-!
# Blanks are no characters of names

The two classes of characters by which a name is found left of a place have nothing in common, and
blanks are no characters of words either.
-/

namespace LuaAssist.Text

variable {c : Char}

/-- The code points of the blanks, one by one. -/
def blankCodes : List Nat :=
  [0x20, 0x9, 0xA, 0xB, 0xC, 0xD, 0x85, 0xA0, 0x1680, 0x2000, 0x2001, 0x2002, 0x2003, 0x2004,
   0x2005, 0x2006, 0x2007, 0x2008, 0x2009, 0x200A, 0x2028, 0x2029, 0x202F, 0x205F, 0x3000]

/-- There are no other blanks. -/
theorem toNat_mem_blankCodes (hblank : isBlank c = true) : c.toNat ∈ blankCodes := by
  simp only [isBlank, Bool.or_eq_true, Bool.and_eq_true, decide_eq_true_eq, Char.le_def,
    UInt32.le_iff_toNat_le] at hblank
  have hcode : c.toNat = c.val.toNat := rfl
  have htab : '\t'.val.toNat = 0x9 ∧ '\r'.val.toNat = 0xD := ⟨rfl, rfl⟩
  have hquad : '\u2000'.val.toNat = 0x2000 ∧ '\u200a'.val.toNat = 0x200A := ⟨rfl, rfl⟩
  simp only [blankCodes, List.mem_cons]
  rcases hblank with ((((((((((h | h) | h) | h) | h) | h) | h) | h) | h) | h) | h)
  all_goals first | (subst h; decide) | omega

/-- No character of a name is blank. -/
theorem isBlank_of_isIdentifierPart (hpart : isIdentifierPart c = true) : isBlank c = false := by
  have hnone : ∀ code ∈ blankCodes, isIdentifierPart (Char.ofNat code) = false := by
    decide +kernel
  cases hblank : isBlank c with
  | false => rfl
  | true =>
    have hother := hnone c.toNat (toNat_mem_blankCodes hblank)
    rw [Char.ofNat_toNat, hpart] at hother
    cases hother

/-- No blank is a character of a name. -/
theorem isIdentifierPart_of_isBlank (hblank : isBlank c = true) : isIdentifierPart c = false := by
  cases hpart : isIdentifierPart c with
  | false => rfl
  | true => rw [← hblank, isBlank_of_isIdentifierPart hpart]

/-- No character of a word is blank. -/
theorem isWordPart_of_isBlank (hblank : isBlank c = true) : isWordPart c = false := by
  have hnone : ∀ code ∈ blankCodes, isWordPart (Char.ofNat code) = false := by
    decide +kernel
  rw [← Char.ofNat_toNat c]
  exact hnone c.toNat (toNat_mem_blankCodes hblank)

end LuaAssist.Text

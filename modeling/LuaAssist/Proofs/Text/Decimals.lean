import LuaAssist.Text.Measure
import Mathlib.Algebra.Group.Nat.Defs
import Mathlib.Logic.Function.Basic

/-!
# Decimal numbers

Numbers as they are written with decimal digits. Among texts of one length the order of the texts
is the order of the numbers, whatever zeros stand in front.
-/

namespace LuaAssist

/-- A text of decimal digits. -/
def Text.IsDecimal (text : Text) : Prop := ∀ c ∈ text, c.isDigit = true

namespace Text

/-- The number that decimal digits stand for. -/
def decimalValue (text : Text) : Nat := Nat.ofDigitChars 10 text 0

/-- The digit in front counts for the most. -/
theorem decimalValue_cons (c : Char) (text : Text) :
    decimalValue (c :: text) = 10 ^ text.length * (c.toNat - '0'.toNat) + decimalValue text := by
  rw [decimalValue, Nat.ofDigitChars_cons, Nat.ofDigitChars_eq_ofDigitChars_zero, Nat.mul_zero,
    Nat.zero_add, decimalValue]

/-- A number with a greater digit in front is greater. -/
theorem lt_of_digit_lt {power digit other rest : Nat} (hrest : rest < power)
    (hdigit : digit < other) : power * digit + rest < power * other :=
  calc power * digit + rest
      < power * digit + power := Nat.add_lt_add_left hrest _
    _ = power * (digit + 1) := (Nat.mul_succ _ _).symm
    _ ≤ power * other := Nat.mul_le_mul_left _ hdigit

/-- So many digits stand for less than that power of ten. -/
theorem IsDecimal.decimalValue_lt {text : Text} (htext : text.IsDecimal) :
    decimalValue text < 10 ^ text.length := by
  induction text with
  | nil => exact Nat.one_pos
  | cons c text ih =>
    obtain ⟨hdigit, hrest⟩ := List.forall_mem_cons.mp htext
    have hle : c.toNat - '0'.toNat ≤ 9 :=
      Nat.sub_le_sub_right (Char.isDigit_iff_toNat.mp hdigit).2 '0'.toNat
    rw [decimalValue_cons, List.length_cons, Nat.pow_succ]
    exact lt_of_digit_lt (ih hrest) (Nat.lt_succ_of_le hle)

/-- Of two texts of as many digits the one with the smaller number comes first. -/
theorem IsDecimal.lt_iff {first second : Text} (hfirst : first.IsDecimal)
    (hsecond : second.IsDecimal) (hlength : first.length = second.length) :
    first < second ↔ decimalValue first < decimalValue second := by
  induction first generalizing second with
  | nil =>
    obtain rfl : second = [] := List.length_eq_zero_iff.mp hlength.symm
    exact iff_of_false (List.not_lt_nil _) (Nat.lt_irrefl _)
  | cons c first ih =>
    cases second with
    | nil => cases hlength
    | cons d second =>
      obtain ⟨hc, hrest⟩ := List.forall_mem_cons.mp hfirst
      obtain ⟨hd, hmore⟩ := List.forall_mem_cons.mp hsecond
      have hrests : first.length = second.length := Nat.succ.inj hlength
      have hbelow : decimalValue first < 10 ^ first.length := IsDecimal.decimalValue_lt hrest
      have habove : decimalValue second < 10 ^ first.length :=
        hrests ▸ IsDecimal.decimalValue_lt hmore
      have hzero := (Char.isDigit_iff_toNat.mp hc).1
      have hzero' := (Char.isDigit_iff_toNat.mp hd).1
      have hchars : c < d ↔ c.toNat < d.toNat := UInt32.lt_iff_toNat_lt
      rw [List.cons_lt_cons_iff, decimalValue_cons, decimalValue_cons, ← hrests, hchars]
      rcases Nat.lt_trichotomy c.toNat d.toNat with hless | hsame | hgreater
      · have hvalues := lt_of_digit_lt hbelow (Nat.sub_lt_sub_right hzero hless)
        exact iff_of_true (Or.inl hless) (Nat.lt_of_lt_of_le hvalues (Nat.le_add_right _ _))
      · obtain rfl : c = d := Char.toNat_inj.mp hsame
        rw [ih hrest hmore hrests, Nat.add_lt_add_iff_left]
        simp
      · have hvalues := lt_of_digit_lt habove (Nat.sub_lt_sub_right hzero' hgreater)
        refine iff_of_false ?_ (Nat.lt_asymm (Nat.lt_of_lt_of_le hvalues (Nat.le_add_right _ _)))
        rintro (hless | ⟨rfl, _⟩)
        · exact Nat.lt_asymm hgreater hless
        · exact Nat.lt_irrefl _ hgreater

/-- A number is written with digits. -/
theorem isDecimal_repr (n : Nat) : IsDecimal (Nat.repr n).toList := by
  intro c hc
  rw [Nat.repr_eq_ofList_toDigits, String.toList_ofList] at hc
  exact Nat.isDigit_of_mem_toDigits (by decide) (Nat.le_refl 10) hc

/-- Zeros in front of the digits of a number make no difference. -/
theorem decimalValue_replicate_append (zeros n : Nat) :
    decimalValue (List.replicate zeros '0' ++ (Nat.repr n).toList) = n := by
  rw [Nat.repr_eq_ofList_toDigits, String.toList_ofList, decimalValue, Nat.ofDigitChars_append,
    Nat.ofDigitChars_replicate_zero, Nat.mul_zero, Nat.ofDigitChars_ten_toDigits]

/-- Different numbers are written differently. -/
theorem repr_toList_injective : Function.Injective fun n : Nat => (Nat.repr n).toList := by
  intro n m heq
  have hnumber := congrArg (fun digits => decimalValue (List.replicate 0 '0' ++ digits)) heq
  simpa only [decimalValue_replicate_append] using hnumber

/-- A number below a power of ten has at most that many digits. -/
theorem length_repr_le_iff {n count : Nat} (hcount : 0 < count) :
    (Nat.repr n).toList.length ≤ count ↔ n < 10 ^ count := by
  rw [Nat.repr_eq_ofList_toDigits, String.toList_ofList,
    Nat.length_toDigits_le_iff (by decide) hcount]

end Text

end LuaAssist

import LuaAssist.Proofs.Text.Utf16
import LuaAssist.Proofs.Text.Utf8

/-!
# Where the characters of a coded text begin

In UTF-8 and in UTF-16 the elements that continue a character are told from the one that begins it.
So a coded text shows by itself where its characters begin: a byte that continues none stands behind
the bytes of a front of the text, and a second unit of a pair stands inside a character.
-/

namespace LuaAssist.Text

variable {α : Type} {code : Char → List α} {continues : α → Prop} {element : α}
  {text front rest : Text} {c : Char} {place inner bytes units : Nat}

/-! ## Codes that tell where characters begin -/

/-- Every character begins with an element that continues none and goes on with elements that do. -/
def TellsStarts (code : Char → List α) (continues : α → Prop) : Prop :=
  ∀ c, ∃ first others, code c = first :: others ∧ ¬continues first ∧
    ∀ element ∈ others, continues element

/-- Every element of a coded text belongs to a character. -/
theorem exists_owner (hplace : place < (text.flatMap code).length) :
    ∃ front c rest inner, text = front ++ c :: rest ∧ inner < (code c).length ∧
      place = (front.flatMap code).length + inner := by
  induction text generalizing place with
  | nil => cases hplace
  | cons c text ih =>
    by_cases hfirst : place < (code c).length
    · exact ⟨[], c, text, place, rfl, hfirst, (Nat.zero_add place).symm⟩
    · rw [List.flatMap_cons, List.length_append] at hplace
      obtain ⟨front, d, rest, inner, rfl, hinner, hrest⟩ :=
        ih (show place - (code c).length < (text.flatMap code).length by omega)
      refine ⟨c :: front, d, rest, inner, rfl, hinner, ?_⟩
      rw [List.flatMap_cons, List.length_append]
      omega

/-- Behind the code of a front stands that of the next character. -/
theorem getElem?_owner (hinner : inner < (code c).length) :
    ((front ++ c :: rest).flatMap code)[(front.flatMap code).length + inner]? =
      (code c)[inner]? := by
  rw [List.flatMap_append, List.flatMap_cons, List.getElem?_append_right (by omega),
    Nat.add_sub_cancel_left, List.getElem?_append_left hinner]

/-- An element continues its character exactly if it is not the first. -/
theorem TellsStarts.continues_iff (htells : TellsStarts code continues)
    (helement : (code c)[inner]? = some element) : continues element ↔ 0 < inner := by
  obtain ⟨first, others, hcode, hfirst, hothers⟩ := htells c
  rw [hcode] at helement
  cases inner with
  | zero =>
    rw [List.getElem?_cons_zero, Option.some.injEq] at helement
    exact iff_of_false (helement ▸ hfirst) (Nat.lt_irrefl 0)
  | succ inner =>
    rw [List.getElem?_cons_succ] at helement
    exact iff_of_true (hothers element (List.mem_of_getElem? helement)) (Nat.succ_pos inner)

/-- Where no character goes on, the code of a front of the text ends. -/
theorem TellsStarts.exists_front (htells : TellsStarts code continues)
    (hle : place ≤ (text.flatMap code).length)
    (hstart : ∀ element ∈ (text.flatMap code)[place]?, ¬continues element) :
    ∃ front rest, text = front ++ rest ∧ (front.flatMap code).length = place := by
  rcases Nat.lt_or_eq_of_le hle with hlt | hend
  · obtain ⟨front, c, rest, inner, rfl, hinner, rfl⟩ := exists_owner hlt
    have helement : (code c)[inner]? = some (code c)[inner] := List.getElem?_eq_getElem hinner
    rw [getElem?_owner hinner, helement] at hstart
    have hzero := mt (htells.continues_iff helement).mpr (hstart _ rfl)
    exact ⟨front, c :: rest, rfl, by omega⟩
  · exact ⟨text, [], (List.append_nil text).symm, hend.symm⟩

/-- Where a character goes on, the code of a front ends somewhat earlier. -/
theorem TellsStarts.exists_inside (htells : TellsStarts code continues)
    (helement : (text.flatMap code)[place]? = some element) (hinside : continues element) :
    ∃ front c rest inner, text = front ++ c :: rest ∧ 0 < inner ∧ inner < (code c).length ∧
      place = (front.flatMap code).length + inner := by
  obtain ⟨hlt, -⟩ := List.getElem?_eq_some_iff.mp helement
  obtain ⟨front, c, rest, inner, rfl, hinner, rfl⟩ := exists_owner hlt
  rw [getElem?_owner hinner] at helement
  exact ⟨front, c, rest, inner, rfl, (htells.continues_iff helement).mp hinside, hinner, rfl⟩

/-! ## Bytes -/

/-- A byte that continues a character. -/
def IsContinuation (byte : UInt8) : Prop := 0x80 ≤ byte.toNat ∧ byte.toNat < 0xC0

instance (byte : UInt8) : Decidable (IsContinuation byte) :=
  inferInstanceAs (Decidable (_ ∧ _))

/-- A byte that continues a character is one that does not start any. -/
theorem isContinuation_continuation (code place : Nat) :
    IsContinuation (continuation code place) := by
  have hbits : sextet code place < 64 := Nat.mod_lt _ (by decide)
  unfold IsContinuation
  rw [continuation_toNat]
  omega

/-- In UTF-8 just the first byte of a character is no continuation. -/
theorem tellsStarts_utf8Char : TellsStarts utf8Char IsContinuation := by
  intro c
  have hvalid := toNat_bounds c
  have hfirst {n : Nat} (hn : n < 0x80 ∨ 0xC0 ≤ n ∧ n < 0x100) :
      ¬IsContinuation (UInt8.ofNat n) := by
    unfold IsContinuation
    rw [UInt8.toNat_ofNat']
    omega
  unfold utf8Char
  dsimp only
  split
  · exact ⟨_, _, rfl, hfirst (by omega), List.forall_mem_nil _⟩
  split
  · exact ⟨_, _, rfl, hfirst (by omega), by simp [isContinuation_continuation]⟩
  split
  · exact ⟨_, _, rfl, hfirst (by omega), by simp [isContinuation_continuation]⟩
  · exact ⟨_, _, rfl, hfirst (by omega), by simp [isContinuation_continuation]⟩

/-- Behind some bytes of a text the next byte begins a character, or the text ends. -/
def BeginsCharacter (text : Text) (bytes : Nat) : Prop :=
  bytes ≤ (toUtf8 text).length ∧ ∀ byte ∈ (toUtf8 text)[bytes]?, ¬IsContinuation byte

-- The instance for the one byte is named, since bytes could also be enumerated.
instance (text : Text) (bytes : Nat) : Decidable (BeginsCharacter text bytes) :=
  @instDecidableAnd _ _ (Nat.decLe _ _) (Option.decidableForallMem _)

/-- In front of a place where a character begins stand the bytes of a front of the text. -/
theorem BeginsCharacter.exists_front (hbegins : BeginsCharacter text bytes) :
    ∃ front rest, text = front ++ rest ∧ utf8Length front = bytes := by
  obtain ⟨front, rest, htext, hfront⟩ := tellsStarts_utf8Char.exists_front hbegins.1 hbegins.2
  rw [← toUtf8, length_toUtf8] at hfront
  exact ⟨front, rest, htext, hfront⟩

/-! ## Units -/

/-- A unit that is the second one of a pair. -/
def IsTrailing (unit : UInt16) : Prop := 0xDC00 ≤ unit.toNat ∧ unit.toNat < 0xE000

instance (unit : UInt16) : Decidable (IsTrailing unit) :=
  inferInstanceAs (Decidable (_ ∧ _))

/-- In UTF-16 just the first unit of a character is no trailing one. -/
theorem tellsStarts_utf16Char : TellsStarts utf16Char IsTrailing := by
  intro c
  have hvalid := toNat_bounds c
  unfold utf16Char IsTrailing
  dsimp only
  split
  · refine ⟨_, _, rfl, ?_, List.forall_mem_nil _⟩
    rw [UInt16.toNat_ofNat']
    omega
  · refine ⟨_, _, rfl, ?_, List.forall_mem_singleton.mpr ?_⟩
    · rw [UInt16.toNat_ofNat']
      omega
    · rw [UInt16.toNat_ofNat']
      omega

/-- Behind some units of a text stands the second one of a pair. -/
def SplitsPair (text : Text) (units : Nat) : Prop :=
  ∃ unit ∈ (toUtf16 text)[units]?, IsTrailing unit

/-- A place that splits a pair lies between the two units of a character. -/
theorem SplitsPair.exists_inside (hsplits : SplitsPair text units) :
    ∃ front c rest, text = front ++ c :: rest ∧ utf16Width c = 2 ∧
      units = utf16Length front + 1 := by
  obtain ⟨unit, hunit, htrailing⟩ := hsplits
  obtain ⟨front, c, rest, inner, htext, hpos, hinner, hunits⟩ :=
    tellsStarts_utf16Char.exists_inside hunit htrailing
  have hwidth : utf16Width c ≤ 2 := by
    unfold utf16Width
    split <;> omega
  rw [length_utf16Char] at hinner
  rw [← toUtf16, length_toUtf16] at hunits
  exact ⟨front, c, rest, htext, by omega, by omega⟩

end LuaAssist.Text

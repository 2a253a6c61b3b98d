import LuaAssist.Proofs.Document.Conversions
import LuaAssist.Proofs.Text.Boundaries

/-!
# The columns of a line

A place on a line is told by the bytes, the characters or the UTF-16 units in front of it. Bytes are
read as units and units as characters, and both ways keep the order of places. Where a character
begins they agree on the front of the line, and between the two units of a character the character
counts.
-/

namespace LuaAssist.Document

variable {line front rest : Text} {c : Char}

/-! ## From bytes to units -/

/-- Behind the bytes of a front stand as many UTF-16 units as the front has. -/
theorem utf16Column_append (front rest : Text) :
    utf16Column (front ++ rest) (Text.utf8Length front) = Text.utf16Length front := by
  induction front with
  | nil => cases rest <;> rfl
  | cons c front ih =>
    have hwidth := Text.utf8Width_pos c
    rw [List.cons_append, Text.utf8Length, utf16Column, if_neg (by omega),
      Nat.add_sub_cancel_left, ih]
    rfl

/-- Further to the right in bytes is further to the right in UTF-16 units. -/
theorem utf16Column_mono {bytes more : Nat} (hle : bytes ≤ more) :
    utf16Column line bytes ≤ utf16Column line more := by
  induction line generalizing bytes more with
  | nil => exact Nat.le_refl _
  | cons c line ih =>
    rw [utf16Column, utf16Column]
    split
    · exact Nat.zero_le _
    · rw [if_neg (by omega)]
      exact Nat.add_le_add_left (ih (by omega)) _

/-- Behind the end of a line stand all its units. -/
theorem utf16Column_of_le {bytes : Nat} (hle : Text.utf8Length line ≤ bytes) :
    utf16Column line bytes = Text.utf16Length line := by
  induction line generalizing bytes with
  | nil => rfl
  | cons c line ih =>
    have hwidth := Text.utf8Width_pos c
    rw [Text.utf8Length] at hle
    rw [utf16Column, if_neg (by omega), ih (by omega)]
    rfl

/-! ## From units to characters -/

/-- Behind the first unit of a character, the character counts. -/
theorem charColumn_inside (front : Text) {units : Nat} (hpos : 0 < units)
    (hle : units ≤ Text.utf16Width c) :
    charColumn (front ++ c :: rest) (Text.utf16Length front + units) = front.length + 1 := by
  rw [charColumn_append, charColumn, if_neg (by omega), Nat.sub_eq_zero_of_le hle,
    charColumn_zero]

/-! ## Both ways -/

/-- The column in units of a byte grows with the byte, up to the units of the line. Where a
character begins it is the units of the text in front, and the column in characters that is read
from it is the characters of that text. The column in characters of a unit grows with the unit, up
to the characters of the line, and between the two units of a character it is the one behind that
character. -/
theorem columns_inverse (line : Text) :
    (∀ bytes more, bytes ≤ more → utf16Column line bytes ≤ utf16Column line more) ∧
    (∀ bytes, Text.utf8Length line ≤ bytes → utf16Column line bytes = Text.utf16Length line) ∧
    (∀ bytes, Text.BeginsCharacter line bytes →
      ∃ front, Text.ofUtf8? ((Text.toUtf8 line).take bytes) = some front ∧
        utf16Column line bytes = Text.utf16Length front ∧
        charColumn line (utf16Column line bytes) = front.length) ∧
    (∀ units more, units ≤ more → charColumn line units ≤ charColumn line more) ∧
    (∀ units, charColumn line units ≤ line.length) ∧
    (∀ units, Text.SplitsPair line units →
      ∃ front c rest, line = front ++ c :: rest ∧ Text.utf16Width c = 2 ∧
        units = Text.utf16Length front + 1 ∧ charColumn line units = (front ++ [c]).length) := by
  refine ⟨fun bytes more => utf16Column_mono, fun bytes => utf16Column_of_le, ?_,
    fun units more => charColumn_mono line, charColumn_le line, ?_⟩
  · intro bytes hbegins
    obtain ⟨front, rest, rfl, rfl⟩ := hbegins.exists_front
    have htake : (Text.toUtf8 (front ++ rest)).take (Text.utf8Length front) =
        Text.toUtf8 front := by
      rw [Text.toUtf8_append, ← Text.length_toUtf8, List.take_left]
    have hback := charColumn_append front rest 0
    rw [Nat.add_zero, charColumn_zero, Nat.add_zero] at hback
    refine ⟨front, ?_, utf16Column_append front rest, ?_⟩
    · rw [htake, Text.ofUtf8?_toUtf8]
    · rw [utf16Column_append, hback]
  · intro units hsplits
    obtain ⟨front, c, rest, rfl, hwidth, rfl⟩ := hsplits.exists_inside
    refine ⟨front, c, rest, rfl, hwidth, rfl, ?_⟩
    rw [charColumn_inside front Nat.one_pos (by omega), List.length_append, List.length_singleton]

/-- A line with characters of two, four and one byte: where the last one begins, beyond the end, and
between the units of the second character. -/
theorem columns_inverse_sign :
    let line := "é🎉b".toList
    (Text.BeginsCharacter line 6 ∧
      ∃ front, Text.ofUtf8? ((Text.toUtf8 line).take 6) = some front ∧
        utf16Column line 6 = Text.utf16Length front ∧
        charColumn line (utf16Column line 6) = front.length) ∧
      ¬Text.BeginsCharacter line 4 ∧ utf16Column line 4 ≤ utf16Column line 6 ∧
      (Text.utf8Length line ≤ 9 ∧ utf16Column line 9 = Text.utf16Length line) ∧
      charColumn line 1 ≤ charColumn line 2 ∧ charColumn line 9 ≤ line.length ∧
      Text.SplitsPair line 2 ∧
      ∃ front c rest, line = front ++ c :: rest ∧ Text.utf16Width c = 2 ∧
        2 = Text.utf16Length front + 1 ∧ charColumn line 2 = (front ++ [c]).length := by
  intro line
  obtain ⟨hmono, hend, hbegin, hgrow, hbound, hpair⟩ := columns_inverse line
  have hbegins : Text.BeginsCharacter line 6 := by decide
  have hinside : ¬Text.BeginsCharacter line 4 := by decide
  have hbeyond : Text.utf8Length line ≤ 9 := by decide
  have hsplits : Text.SplitsPair line 2 := ⟨0xDF89, by decide, by decide⟩
  exact ⟨⟨hbegins, hbegin 6 hbegins⟩, hinside, hmono 4 6 (by decide), ⟨hbeyond, hend 9 hbeyond⟩,
    hgrow 1 2 (by decide), hbound 9, hsplits, hpair 2 hsplits⟩

end LuaAssist.Document

import LuaAssist.Text.Blank
import Mathlib.Data.List.TakeWhile

/-!
# Blanks at both ends

A trimmed text has no blanks at its ends and is trimmed to itself, and of a text with blanks around
it that text is left.
-/

namespace LuaAssist.Text

variable {text : Text}

/-- Nothing is left of blanks. -/
theorem trimStart_eq_nil (hblanks : ∀ c ∈ text, isBlank c = true) : trimStart text = [] :=
  List.dropWhile_eq_nil_iff.mpr hblanks

/-- Nor is anything from the other side. -/
theorem trimEnd_eq_nil (hblanks : ∀ c ∈ text, isBlank c = true) :
    trimEnd text = [] := by
  rw [trimEnd, List.reverse_eq_nil_iff, List.dropWhile_eq_nil_iff]
  exact fun c hc => hblanks c (List.mem_reverse.mp hc)

/-- Blanks at the end of a text that has more than blanks. -/
theorem trimEnd_append_of_ne_nil (front : Text) {behind : Text} (hbehind : trimEnd behind ≠ []) :
    trimEnd (front ++ behind) = front ++ trimEnd behind := by
  unfold trimEnd at hbehind ⊢
  have hdrop : (behind.reverse.dropWhile isBlank).isEmpty = false := by
    simpa using hbehind
  rw [List.reverse_append, List.dropWhile_append, hdrop]
  simp

/-- Blanks behind a text are dropped with those at its end. -/
theorem trimEnd_append_of_eq_nil (front : Text) {behind : Text} (hbehind : trimEnd behind = []) :
    trimEnd (front ++ behind) = trimEnd front := by
  unfold trimEnd at hbehind ⊢
  have hdrop : (behind.reverse.dropWhile isBlank).isEmpty = true := by
    simpa using hbehind
  rw [List.reverse_append, List.dropWhile_append, hdrop]
  simp

/-- Nothing is dropped in front of a character that is not blank. -/
theorem trimStart_of_head? (hhead : ∀ c ∈ text.head?, isBlank c = false) :
    trimStart text = text := by
  cases text with
  | nil => rfl
  | cons c rest => exact List.dropWhile_cons_of_neg (by simp [hhead c rfl])

/-- Nothing is dropped behind a character that is not blank. -/
theorem trimEnd_of_getLast? (hlast : ∀ c ∈ text.getLast?, isBlank c = false) :
    trimEnd text = text := by
  rw [← List.head?_reverse] at hlast
  rw [trimEnd, ← trimStart, trimStart_of_head? hlast, List.reverse_reverse]

/-- A text with blanks around it is trimmed to the text. -/
theorem trim_append {front behind : Text} (hfront : ∀ c ∈ front, isBlank c = true)
    (hbehind : ∀ c ∈ behind, isBlank c = true) (hhead : ∀ c ∈ text.head?, isBlank c = false)
    (hlast : ∀ c ∈ text.getLast?, isBlank c = false) : trim (front ++ (text ++ behind)) = text := by
  rw [trim, trimStart, List.dropWhile_append_of_pos hfront, ← trimStart]
  cases text with
  | nil =>
    rw [List.nil_append, trimStart_eq_nil hbehind]
    rfl
  | cons c rest =>
    have hsolid : trimStart (c :: rest ++ behind) = c :: rest ++ behind := trimStart_of_head? hhead
    rw [hsolid, trimEnd_append_of_eq_nil _ (trimEnd_eq_nil hbehind), trimEnd_of_getLast? hlast]

/-- Nothing is left of a text if there are only blanks in it. -/
theorem trim_eq_nil_iff : trim text = [] ↔ ∀ c ∈ text, isBlank c = true := by
  constructor
  · intro hnil
    rw [trim, trimEnd, List.reverse_eq_nil_iff, List.dropWhile_eq_nil_iff] at hnil
    have hstart : trimStart text = [] := by
      cases hstart : trimStart text with
      | nil => rfl
      | cons c rest =>
        have hsolid := List.head?_dropWhile_not isBlank text
        rw [← trimStart, hstart] at hsolid
        have hblank := hnil c (by simp [hstart])
        simp [hblank] at hsolid
    exact List.dropWhile_eq_nil_iff.mp hstart
  · intro hblanks
    rw [trim, trimStart_eq_nil hblanks]
    rfl

/-- What is dropped at the end is a run of blanks. -/
theorem trimEnd_append_blanks (text : Text) :
    trimEnd text ++ (text.reverse.takeWhile isBlank).reverse = text := by
  rw [trimEnd, ← List.reverse_append, List.takeWhile_append_dropWhile, List.reverse_reverse]

/-- The first character of a trimmed text is not blank. -/
theorem head?_trim (text : Text) : ∀ c ∈ (trim text).head?, isBlank c = false := by
  intro c hc
  obtain ⟨rest, hrest⟩ := List.head?_eq_some_iff.mp hc
  have hwhole := trimEnd_append_blanks (trimStart text)
  rw [← trim, hrest] at hwhole
  have hnot := List.head?_dropWhile_not isBlank text
  rw [← trimStart, ← hwhole] at hnot
  exact hnot

/-- The last character of a trimmed text is not blank. -/
theorem getLast?_trim (text : Text) : ∀ c ∈ (trim text).getLast?, isBlank c = false := by
  intro c hc
  rw [trim, trimEnd, List.getLast?_reverse] at hc
  have hnot := List.head?_dropWhile_not isBlank (trimStart text).reverse
  rw [Option.mem_def.mp hc] at hnot
  exact hnot

/-- A trimmed text is trimmed to itself. -/
theorem trim_trim (text : Text) : trim (trim text) = trim text := by
  have htrim := trim_append (List.forall_mem_nil _) (List.forall_mem_nil _) (head?_trim text)
    (getLast?_trim text)
  rwa [List.nil_append, List.append_nil] at htrim

end LuaAssist.Text

import LuaAssist.Proofs.Document.Joined
import LuaAssist.Proofs.Document.Positions

/-!
# The front of a line

A text that ends with a break goes on with new lines, unless a carriage return at its end meets a
line feed. So where the front of a line is exchanged, all other lines are what they were before,
unless nothing is left of the front that kept such a return and such a line feed apart.
-/

namespace LuaAssist.Document

variable {c : Char} {text front rest old new : Text} {lines : List Text} {number : Nat}

/-- A carriage return at the end of the first text and a line feed at the front of the second. -/
def Meet (front rest : Text) : Prop := front.getLast? = some '\r' ∧ rest.head? = some '\n'

instance (front rest : Text) : Decidable (Meet front rest) := inferInstanceAs (Decidable (_ ∧ _))

/-- What stands in front of the carriage return does not matter. -/
theorem Meet.cons (hmeet : Meet front rest) : Meet (c :: front) rest :=
  ⟨by rw [List.getLast?_cons, hmeet.1]; rfl, hmeet.2⟩

/-- Behind a break begin the lines of what follows, unless two halves of a break meet. -/
theorem rawLines_append_lines (hfront : rawLines front = lines ++ [[]])
    (hmeet : ¬Meet front rest) : rawLines (front ++ rest) = lines ++ rawLines rest := by
  induction front using breaks_induction generalizing lines with
  | nil =>
    have hlength := congrArg List.length hfront
    have hnil : lines = [] := by simpa [rawLines] using hlength
    rw [hnil, List.nil_append, List.nil_append]
  | pair front ih =>
    rw [rawLines_pair] at hfront
    cases lines with
    | nil =>
      obtain ⟨first, others, hothers⟩ := exists_rawLines_eq front
      simp [hothers] at hfront
    | cons line lines =>
      obtain ⟨rfl, hlines⟩ := List.cons.inj hfront
      rw [List.cons_append, List.cons_append, rawLines_pair,
        ih hlines fun hrest => hmeet hrest.cons.cons, List.cons_append]
  | alone c front hbreak halone ih =>
    rw [rawLines_break hbreak halone] at hfront
    cases lines with
    | nil =>
      obtain ⟨first, others, hothers⟩ := exists_rawLines_eq front
      simp [hothers] at hfront
    | cons line lines =>
      obtain ⟨rfl, hlines⟩ := List.cons.inj hfront
      have hhead : c = '\r' → (front ++ rest).head? ≠ some '\n' := by
        rintro rfl hfeed
        cases front with
        | nil => exact hmeet ⟨rfl, hfeed⟩
        | cons d front => exact halone rfl hfeed
      rw [List.cons_append, rawLines_break hbreak hhead, ih hlines fun hrest => hmeet hrest.cons,
        List.cons_append]
  | plain c front hplain ih =>
    obtain ⟨first, others, hothers⟩ := exists_rawLines_eq front
    rw [rawLines_cons hplain, hothers, consLine_cons hplain] at hfront
    cases lines with
    | nil => simp at hfront
    | cons line lines =>
      obtain ⟨rfl, hlines⟩ := List.cons.inj hfront
      have hfirst : rawLines front = (first :: lines) ++ [[]] := by
        rw [hothers, hlines]
        rfl
      rw [List.cons_append, rawLines_cons hplain, ih hfirst fun hrest => hmeet hrest.cons,
        List.cons_append, consLine_cons hplain, List.cons_append]

/-- The first column of a line is its start. -/
theorem offsetOf_lineStart (hnumber : number < lineCount text) :
    offsetOf text ⟨number, 0⟩ = lineStart text number := by
  rw [offsetOf, if_neg (Nat.not_le_of_lt hnumber), charColumn_zero, Nat.add_zero]

/-- No two halves of a break meet where a line starts. -/
theorem not_meet_lineStart (hnumber : number < lineCount text) :
    ¬Meet (text.take (lineStart text number)) (text.drop (lineStart text number)) := by
  rintro ⟨hreturn, hfeed⟩
  have hoffset := offsetOf_lineStart hnumber
  obtain ⟨front, hfront⟩ := List.getLast?_eq_some_iff.mp hreturn
  obtain ⟨behind, hbehind⟩ := List.head?_eq_some_iff.mp hfeed
  have hle : lineStart text number ≤ text.length := hoffset ▸ offsetOf_le text _
  refine not_splitsReturn_offsetOf text ⟨number, 0⟩ ⟨front, behind, ?_, ?_⟩
  · calc text
        = text.take (lineStart text number) ++ text.drop (lineStart text number) :=
          (List.take_append_drop _ _).symm
      _ = front ++ '\r' :: '\n' :: behind := by
          rw [hfront, hbehind, List.append_assoc, List.singleton_append]
  · have hlength := congrArg List.length hfront
    rw [List.length_take, Nat.min_eq_left hle, List.length_append, List.length_singleton] at hlength
    rw [hoffset, hlength]

/-- From its start on a line is followed by the lines behind it. -/
theorem rawLines_drop_lineStart (hnumber : number < lineCount text) :
    rawLines (text.drop (lineStart text number)) = (rawLines text).drop number := by
  have hwhole := rawLines_append_lines (rawLines_take_lineStart hnumber)
    (not_meet_lineStart hnumber)
  rw [List.take_append_drop] at hwhole
  have hsame : (rawLines text).take number ++ rawLines (text.drop (lineStart text number)) =
      (rawLines text).take number ++ (rawLines text).drop number := by
    rw [← hwhole, List.take_append_drop]
  exact List.append_cancel_left hsame

/-! ## Exchanging fronts -/

/-- The document with a new front in place of the old one of a line. -/
def withFront (text : Text) (number : Nat) (old new : Text) : Text :=
  replace text (lineStart text number) (lineStart text number + old.length) new

/-- What stands in front of the line, its new front, and what follows the old one. -/
theorem withFront_eq (text : Text) (number : Nat) (old new : Text) :
    withFront text number old new = text.take (lineStart text number) ++
      (new ++ text.drop (lineStart text number + old.length)) := by
  rw [withFront, replace, Nat.max_eq_right (Nat.le_add_right _ _), List.append_assoc]

section

variable (hline : (rawLines text)[number]? = some (old ++ rest))

include hline

/-- A line that is found is one of the lines. -/
theorem lt_lineCount_of_getElem? : number < lineCount text :=
  (List.getElem?_eq_some_iff.mp hline).1

/-- The text of the line begins with its front. -/
theorem lineText_of_front (hold : Unbroken old) :
    lineText text number = old ++ dropLineFeed rest := by
  rw [lineText, hline, Option.getD_some, dropLineFeed_append_unbroken hold]

/-- The column behind a front, in UTF-16 units, is where the front ends. -/
theorem offsetOf_front (hold : Unbroken old) :
    offsetOf text ⟨number, Text.utf16Length old⟩ = lineStart text number + old.length := by
  have hcolumn : charColumn (old ++ dropLineFeed rest) (Text.utf16Length old) = old.length := by
    have hwithin : old.length ≤ (old ++ dropLineFeed rest).length := by simp
    have hfront := charColumn_utf16Length hwithin
    rwa [List.take_left] at hfront
  rw [offsetOf, if_neg (Nat.not_le_of_lt (lt_lineCount_of_getElem? hline)),
    lineText_of_front hline hold, hcolumn]

/-- From its start on the document is the line, and then the lines behind it. -/
theorem drop_lineStart :
    text.drop (lineStart text number) =
      old ++ (rest ++ ((rawLines text).drop (number + 1)).flatten) := by
  have hnumber := lt_lineCount_of_getElem? hline
  obtain ⟨hlt, hget⟩ := List.getElem?_eq_some_iff.mp hline
  rw [← flatten_rawLines (text.drop (lineStart text number)), rawLines_drop_lineStart hnumber,
    List.drop_eq_getElem_cons hlt, hget, List.flatten_cons, List.append_assoc]

/-- Behind its old front the document goes on with the rest of the line. -/
theorem drop_front : text.drop (lineStart text number + old.length) =
    rest ++ ((rawLines text).drop (number + 1)).flatten := by
  rw [← List.drop_drop, drop_lineStart hline, List.drop_left]

/-- A front that is exchanged for itself changes nothing. -/
theorem withFront_self : withFront text number old old = text := by
  rw [withFront_eq, drop_front hline, ← drop_lineStart hline, List.take_append_drop]

/-- Behind its old front the line goes on with the lines behind it. -/
theorem rawLines_behind_front (hold : Unbroken old) :
    rawLines (rest ++ ((rawLines text).drop (number + 1)).flatten) =
      rest :: (rawLines text).drop (number + 1) := by
  obtain ⟨hlt, hget⟩ := List.getElem?_eq_some_iff.mp hline
  obtain ⟨first, others, hfirst⟩ :=
    exists_rawLines_eq (rest ++ ((rawLines text).drop (number + 1)).flatten)
  have hjoined := rawLines_append_unbroken hold hfirst
  rw [← drop_lineStart hline, rawLines_drop_lineStart (lt_lineCount_of_getElem? hline),
    List.drop_eq_getElem_cons hlt, hget] at hjoined
  obtain ⟨hheads, htails⟩ := List.cons.inj hjoined
  rw [hfirst, htails, List.append_cancel_left hheads]

/-- Where the front of a line is exchanged, all other lines stay, unless two halves of a break
meet that the front has kept apart. -/
theorem rawLines_withFront (hold : Unbroken old) (hnew : Unbroken new)
    (hmeet : ¬Meet (text.take (lineStart text number))
      (new ++ text.drop (lineStart text number + old.length))) :
    rawLines (withFront text number old new) = (rawLines text).set number (new ++ rest) := by
  have hnumber := lt_lineCount_of_getElem? hline
  have hbehind := rawLines_append_unbroken hnew (rawLines_behind_front hline hold)
  rw [← drop_front hline] at hbehind
  rw [withFront_eq, rawLines_append_lines (rawLines_take_lineStart hnumber) hmeet, hbehind,
    List.set_eq_take_append_cons_drop, if_pos (show number < (rawLines text).length from hnumber)]

/-- Exchanging the front of a line leaves all other lines and their breaks as they are if and only
if no two halves of a break meet. -/
theorem withFront_keeps_iff (hold : Unbroken old) (hnew : Unbroken new) :
    (lineCount (withFront text number old new) = lineCount text ∧
        ∀ other, other ≠ number →
          (rawLines (withFront text number old new))[other]? = (rawLines text)[other]?) ↔
      ¬Meet (text.take (lineStart text number))
        (new ++ text.drop (lineStart text number + old.length)) := by
  have hnumber := lt_lineCount_of_getElem? hline
  constructor
  · rintro ⟨hcount, hothers⟩
    -- The line starts where it did, and no line starts between two halves of a break.
    have habove : (rawLines (withFront text number old new)).take number =
        (rawLines text).take number := by
      refine List.ext_getElem? fun other => ?_
      rw [List.getElem?_take, List.getElem?_take]
      split
      · rename_i hless
        exact hothers other (Nat.ne_of_lt hless)
      · rfl
    have hstart : lineStart (withFront text number old new) number = lineStart text number := by
      rw [lineStart, habove, lineStart]
    have hlength : (text.take (lineStart text number)).length = lineStart text number := by
      rw [take_lineStart, lineStart]
    have hapart := not_meet_lineStart (hcount.symm ▸ hnumber :
      number < lineCount (withFront text number old new))
    rwa [hstart, withFront_eq, List.take_left' hlength, List.drop_left' hlength] at hapart
  · intro hmeet
    rw [lineCount, rawLines_withFront hline hold hnew hmeet, List.length_set]
    exact ⟨rfl, fun other hother => List.getElem?_set_ne hother.symm⟩

end

end LuaAssist.Document

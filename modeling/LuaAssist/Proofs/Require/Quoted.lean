import LuaAssist.Proofs.Document.Feeds
import LuaAssist.Require

/-!
# Where module names stand

The name in a reference stands in the text between two equal quotes, and the line and the byte of
the reference are its place, counted by line feeds.
-/

namespace LuaAssist.Require

open Document (feedPlace LineAt)

variable {name text : Text} {place : Nat}

/-- A name stands at a place of a text, between two equal quotes. -/
def QuotedAt (name text : Text) (place : Nat) : Prop :=
  ∃ front quote behind, isQuote quote = true ∧
    text = front ++ quote :: (name ++ quote :: behind) ∧ place = front.length + 1

/-- Text in front moves the place. -/
theorem QuotedAt.append_left (h : QuotedAt name text place) (front : Text) :
    QuotedAt name (front ++ text) (front.length + place) := by
  obtain ⟨before, quote, behind, hquote, rfl, rfl⟩ := h
  exact ⟨front ++ before, quote, behind, hquote, by rw [List.append_assoc],
    by rw [List.length_append, Nat.add_assoc]⟩

/-- Text behind leaves the place. -/
theorem QuotedAt.append_right (h : QuotedAt name text place) (tail : Text) :
    QuotedAt name (text ++ tail) place := by
  obtain ⟨front, quote, behind, hquote, rfl, rfl⟩ := h
  exact ⟨front, quote, behind ++ tail, hquote, by simp, rfl⟩

/-- The closing quote is in the text. -/
theorem QuotedAt.lt_length (h : QuotedAt name text place) :
    place + name.length < text.length := by
  obtain ⟨front, quote, behind, -, rfl, rfl⟩ := h
  simp only [List.length_append, List.length_cons]
  omega

/-- The name is read at its place. -/
theorem QuotedAt.textAt (h : QuotedAt name text place) :
    Document.textAt text place name.length = name := by
  obtain ⟨front, quote, behind, -, rfl, rfl⟩ := h
  unfold Document.textAt
  rw [List.append_cons, List.drop_left' (by simp), List.take_left]

/-! ## References -/

/-- Where a run of other characters ends, the quote stands. -/
theorem eq_append_of_drop_takeWhile {quote closing : Char} {rest tail : Text}
    (hdrop : rest.drop (rest.takeWhile fun c => decide (c ≠ quote)).length = closing :: tail) :
    rest = (rest.takeWhile fun c => decide (c ≠ quote)) ++ quote :: tail := by
  induction rest with
  | nil => cases hdrop
  | cons c rest ih =>
    by_cases hc : c = quote
    · rw [List.takeWhile_cons_of_neg (by simp [hc])] at hdrop ⊢
      obtain ⟨-, rfl⟩ := List.cons.inj hdrop
      rw [hc, List.nil_append]
    · rw [List.takeWhile_cons_of_pos (by simp [hc])] at hdrop ⊢
      rw [List.cons_append, ← ih hdrop]

/-- A literal stands between its quotes. -/
theorem literal?_spec {content after : Text} (hliteral : literal? text = some (content, after)) :
    ∃ quote, isQuote quote = true ∧ text = quote :: (content ++ quote :: after) := by
  unfold literal? at hliteral
  split at hliteral
  · cases hliteral
  · rename_i quote rest
    split at hliteral
    · rename_i hquote
      dsimp only at hliteral
      split at hliteral
      · rename_i closing tail hdrop
        obtain ⟨rfl, rfl⟩ := Prod.mk.inj (Option.some.inj hliteral)
        exact ⟨quote, hquote, congrArg (quote :: ·) (eq_append_of_drop_takeWhile hdrop)⟩
      · cases hliteral
    · cases hliteral

/-- A reference at the front of a text names a module, and its name stands where it says. -/
theorem call?_spec {before? : Option Char} {skipped : Nat}
    (hcall : call? before? text = some (skipped, name)) :
    name ≠ [] ∧ QuotedAt name text skipped := by
  unfold call? at hcall
  split at hcall
  · dsimp only at hcall
    split at hcall
    · rename_i found after hliteral
      split at hcall
      · cases hcall
      · rename_i hname
        obtain ⟨rfl, rfl⟩ := Prod.mk.inj (Option.some.inj hcall)
        obtain ⟨quote, hquote, hbehind⟩ := literal?_spec hliteral
        rw [List.drop_drop] at hbehind
        refine ⟨by simpa using hname, text.take (word.length + gap (text.drop word.length)),
          quote, after, hquote, ?_, ?_⟩
        · rw [← hbehind, List.take_append_drop]
        · have hlength := congrArg List.length hbehind
          simp only [List.length_drop, List.length_cons, List.length_append] at hlength
          rw [List.length_take]
          omega
    · cases hcall
  · cases hcall

/-- What is found is a reference at the front of an end of the text. -/
theorem exists_call_of_mem_callsFrom {before? : Option Char} {offset found : Nat}
    (hmem : (found, name) ∈ callsFrom before? offset text) :
    ∃ front rest last? skipped, text = front ++ rest ∧
      call? last? rest = some (skipped, name) ∧ found = offset + front.length + skipped := by
  fun_induction callsFrom before? offset text with
  | case1 => cases hmem
  | case2 before? offset c rest skipped first hcall ih =>
    rcases List.mem_cons.mp hmem with heq | hmem
    · obtain ⟨rfl, rfl⟩ := Prod.mk.inj heq
      exact ⟨[], c :: rest, before?, skipped, rfl, hcall, rfl⟩
    · obtain ⟨front, behind, last?, next, hsplit, hnext, rfl⟩ := ih hmem
      have hlength := (call?_spec hcall).2.lt_length
      rw [List.length_cons] at hlength
      refine ⟨c :: rest.take (skipped + first.length) ++ front, behind, last?, next, ?_, hnext, ?_⟩
      · rw [List.append_assoc, ← hsplit, List.cons_append, List.take_append_drop]
      · simp only [List.length_append, List.length_cons, List.length_take]
        omega
  | case3 before? offset c rest hcall ih =>
    obtain ⟨front, behind, last?, next, rfl, hnext, rfl⟩ := ih hmem
    refine ⟨c :: front, behind, last?, next, rfl, hnext, ?_⟩
    rw [List.length_cons]
    omega

/-- Every name that is found stands where it is found. -/
theorem callsFrom_spec {before? : Option Char} {offset found : Nat}
    (hmem : (found, name) ∈ callsFrom before? offset text) :
    name ≠ [] ∧ ∃ place, found = offset + place ∧ QuotedAt name text place := by
  obtain ⟨front, rest, last?, skipped, rfl, hcall, rfl⟩ := exists_call_of_mem_callsFrom hmem
  obtain ⟨hname, hplace⟩ := call?_spec hcall
  exact ⟨hname, front.length + skipped, Nat.add_assoc _ _ _, hplace.append_left front⟩

/-- A reference on a line has the line's number, and its byte is that of its name. -/
theorem ofLine_spec {number : Nat} {line : Text} {reference : Reference}
    (hmem : reference ∈ ofLine number line) :
    reference.name ≠ [] ∧ reference.line = number ∧
      ∃ place, QuotedAt reference.name line place ∧
        reference.column = Text.utf8Length (line.take place) := by
  obtain ⟨⟨offset, name⟩, hcall, rfl⟩ := List.mem_map.mp hmem
  obtain ⟨hname, place, rfl, hplace⟩ := callsFrom_spec (List.takeWhile_subset _ hcall)
  refine ⟨hname, rfl, place, hplace, ?_⟩
  rw [Nat.zero_add]

/-- The references on numbered lines are those of the lines. -/
theorem exists_line_of_referencesFrom {number : Nat} {lines : List Text} {reference : Reference}
    (hmem : reference ∈ referencesFrom number lines) :
    ∃ index line, lines[index]? = some line ∧ reference ∈ ofLine (number + index) line := by
  induction lines generalizing number with
  | nil => cases hmem
  | cons line rest ih =>
    rcases List.mem_append.mp hmem with hmem | hmem
    · exact ⟨0, line, rfl, hmem⟩
    · obtain ⟨index, other, hline, hmem⟩ := ih hmem
      exact ⟨index + 1, other, hline, by rwa [Nat.add_comm index 1, ← Nat.add_assoc]⟩

/-- The name of a reference stands in the text between two quotes, and both of its ends are where
the reference says, counted by line feeds. -/
theorem declarations_spec {placeholder : Char} {reference : Reference}
    (hmem : reference ∈ (declarations placeholder text).references) :
    reference.name ≠ [] ∧ ∃ place, QuotedAt reference.name text place ∧
      feedPlace text place = (reference.line, reference.column) ∧
      feedPlace text (place + reference.name.length) =
        (reference.line, reference.column + Text.utf8Length reference.name) := by
  obtain ⟨number, line, hline, hmem⟩ := exists_line_of_referencesFrom hmem
  obtain ⟨hname, hnumber, place, hplace, hcolumn⟩ := ofLine_spec hmem
  obtain ⟨front, behind, rfl, hplaces⟩ := Document.lineAt_of_lines hline
  have hlength := hplace.lt_length
  have hread : (line.drop place).take reference.name.length = reference.name := hplace.textAt
  refine ⟨hname, front.length + place, (hplace.append_right behind).append_left front, ?_, ?_⟩
  · rw [hplaces place (by omega), hnumber, hcolumn, Nat.zero_add]
  · rw [Nat.add_assoc, hplaces _ (by omega), hnumber, hcolumn, Nat.zero_add, List.take_add,
      Text.utf8Length_append, hread]

end LuaAssist.Require

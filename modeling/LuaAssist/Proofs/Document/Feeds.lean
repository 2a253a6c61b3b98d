import LuaAssist.Proofs.Document.Positions
import LuaAssist.Proofs.Text.Pieces

/-!
# Places counted by line feeds

Some places of a text are told by the number of line feeds in front of them and the bytes since the
last one. A document counts lines by all its breaks. Whether such a place is found again in the
document depends on the breaks in front of it alone, and where it is not found, the document looks
for it too early.
-/

namespace LuaAssist.Document

variable {c : Char} {text rest : Text} {offset stop : Nat}

/-- The line feeds in front of an offset, and the bytes since the last of them. -/
def feedPlace : Text → Nat → Nat × Nat
  | [], _ => (0, 0)
  | _, 0 => (0, 0)
  | c :: rest, offset + 1 =>
    let (line, bytes) := feedPlace rest offset
    if c = '\n' then (line + 1, bytes)
    else if line = 0 then (0, Text.utf8Width c + bytes)
    else (line, bytes)

/-- The offset in a document of a byte of a line. -/
def byteOffset (text : Text) (line bytes : Nat) : Nat :=
  offsetOf text ⟨line, utf16Column (lineText text line) bytes⟩

/-- All breaks in front of an offset are line feeds, and carriage returns with a line feed behind
them. -/
def FeedsOnly (text : Text) (stop : Nat) : Prop :=
  ∀ front c rest, text = front ++ c :: rest → front.length < stop → isBreak c = true →
    c = '\n' ∨ (c = '\r' ∧ rest.head? = some '\n')

/-! ## Breaks in front of an offset -/

/-- In front of the start there are no breaks. -/
theorem feedsOnly_zero (text : Text) : FeedsOnly text 0 :=
  fun _ _ _ _ hlt => absurd hlt (Nat.not_lt_zero _)

/-- There are no breaks in an empty text. -/
theorem feedsOnly_nil (stop : Nat) : FeedsOnly [] stop := by
  rintro (_ | _) c rest heq <;> cases heq

/-- The breaks in front of a later offset are the first character, if that is one, and those of the
rest. -/
theorem feedsOnly_succ :
    FeedsOnly (c :: rest) (stop + 1) ↔
      (isBreak c = true → c = '\n' ∨ (c = '\r' ∧ rest.head? = some '\n')) ∧
        FeedsOnly rest stop := by
  constructor
  · intro hfeeds
    refine ⟨hfeeds [] c rest rfl (Nat.succ_pos stop), fun front d tail heq hlt => ?_⟩
    exact hfeeds (c :: front) d tail (by rw [heq, List.cons_append]) (Nat.succ_lt_succ hlt)
  · rintro ⟨hfirst, hrest⟩ front d tail heq hlt
    cases front with
    | nil =>
      obtain ⟨rfl, rfl⟩ := List.cons.inj heq
      exact hfirst
    | cons e front =>
      exact hrest front d tail (List.cons.inj heq).2 (Nat.lt_of_succ_lt_succ hlt)

/-- Whether there are other breaks is found by walking along the text. -/
instance decidableFeedsOnly : (text : Text) → (stop : Nat) → Decidable (FeedsOnly text stop)
  | [], stop => isTrue (feedsOnly_nil stop)
  | text, 0 => isTrue (feedsOnly_zero text)
  | _ :: rest, stop + 1 =>
    have := decidableFeedsOnly rest stop
    decidable_of_iff _ feedsOnly_succ.symm

/-- In front of an earlier offset there are fewer breaks. -/
theorem FeedsOnly.mono (hfeeds : FeedsOnly text stop) (hle : offset ≤ stop) :
    FeedsOnly text offset :=
  fun front c rest heq hlt => hfeeds front c rest heq (Nat.lt_of_lt_of_le hlt hle)

/-- A first character that both count alike makes no difference. -/
theorem feedsOnly_pred_cons (hfirst : isBreak c = true → c = '\n' ∨
    (c = '\r' ∧ rest.head? = some '\n')) :
    FeedsOnly (c :: rest) offset ↔ FeedsOnly rest (offset - 1) := by
  cases offset with
  | zero => exact iff_of_true (feedsOnly_zero _) (feedsOnly_zero _)
  | succ offset =>
    rw [feedsOnly_succ, Nat.add_sub_cancel]
    exact and_iff_right hfirst

/-! ## Bytes of a line -/

/-- The characters of a line that a number of bytes takes. -/
def byteColumn : Text → Nat → Nat
  | [], _ => 0
  | c :: rest, bytes => if bytes = 0 then 0 else byteColumn rest (bytes - Text.utf8Width c) + 1

/-- In a line the column of a byte leads back to the characters in front of the byte. -/
theorem charColumn_utf16Column (line : Text) (bytes : Nat) :
    charColumn line (utf16Column line bytes) = byteColumn line bytes := by
  induction line generalizing bytes with
  | nil => rfl
  | cons c line ih =>
    unfold utf16Column byteColumn
    by_cases hzero : bytes = 0
    · rw [if_pos hzero, if_pos hzero]
      exact charColumn_zero _
    · have hwidth := Text.utf16Width_pos c
      rw [if_neg hzero, if_neg hzero, charColumn, if_neg (by omega), Nat.add_sub_cancel_left, ih]

/-- A line that is only a break has the bytes of what is left of it, and each later line is one line
further in the rest. -/
theorem byteOffset_break {ending : Text} (hlines : rawLines text = ending :: rawLines rest)
    (bytes : Nat) :
    byteOffset text 0 bytes = byteColumn (dropLineFeed ending) bytes ∧
      ∀ line, byteOffset text (line + 1) bytes = ending.length + byteOffset rest line bytes := by
  refine ⟨?_, fun line => ?_⟩
  · unfold byteOffset
    rw [(offsetOf_break hlines _).1, ← charColumn_utf16Column]
    simp [lineText, hlines]
  · unfold byteOffset
    rw [(offsetOf_break hlines _).2]
    simp [lineText, hlines]

/-- In front of a character that ends no line there are the bytes of one character more on the first
line. -/
theorem byteOffset_inner (hplain : isBreak c = false) (bytes : Nat) :
    byteOffset (c :: rest) 0 (Text.utf8Width c + bytes) = byteOffset rest 0 bytes + 1 ∧
      ∀ line, byteOffset (c :: rest) (line + 1) bytes = byteOffset rest (line + 1) bytes + 1 := by
  obtain ⟨first, lines, hrest⟩ := exists_rawLines_eq rest
  have hlines : rawLines (c :: rest) = (c :: first) :: lines := by
    rw [rawLines_cons hplain, hrest, consLine_cons hplain]
  have hwidth := Text.utf8Width_pos c
  have hunits := Text.utf16Width_pos c
  refine ⟨?_, fun line => ?_⟩
  · unfold byteOffset
    have hline : lineText (c :: rest) 0 = c :: lineText rest 0 := by
      simp [lineText, hlines, hrest, dropLineFeed_cons hplain]
    rw [hline, utf16Column, if_neg (by omega), Nat.add_sub_cancel_left,
      (offsetOf_inner hplain _).1, if_neg (by omega), Nat.add_sub_cancel_left]
  · unfold byteOffset
    have hline : lineText (c :: rest) (line + 1) = lineText rest (line + 1) := by
      simp [lineText, hlines, hrest]
    rw [hline, (offsetOf_inner hplain _).2]

/-- The start of a document is its first byte. -/
theorem byteOffset_start (text : Text) : byteOffset text 0 0 = 0 := by
  unfold byteOffset
  rw [show utf16Column (lineText text 0) 0 = 0 by cases lineText text 0 <;> rfl]
  exact offsetOf_start text

/-! ## Finding a place again -/

/-- No place is in front of the start. -/
theorem feedPlace_zero (text : Text) : feedPlace text 0 = (0, 0) := by
  cases text <;> rfl

/-- A line feed puts what follows one line further. -/
theorem feedPlace_feed (rest : Text) (offset : Nat) :
    feedPlace ('\n' :: rest) (offset + 1) =
      ((feedPlace rest offset).1 + 1, (feedPlace rest offset).2) := rfl

/-- Another character moves what follows on its line. -/
theorem feedPlace_inner (hfeed : c ≠ '\n') (rest : Text) (offset : Nat) :
    feedPlace (c :: rest) (offset + 1) =
      ((feedPlace rest offset).1, if (feedPlace rest offset).1 = 0 then
        Text.utf8Width c + (feedPlace rest offset).2 else (feedPlace rest offset).2) := by
  simp only [feedPlace, if_neg hfeed]
  by_cases hzero : (feedPlace rest offset).1 = 0
  · rw [if_pos hzero, if_pos hzero, hzero]
  · rw [if_neg hzero, if_neg hzero]

/-- Every column of an earlier line is in front of a place. -/
theorem offsetOf_lt_of_line_lt {line : Nat} (column : Nat)
    (hline : line < (feedPlace text offset).1) : offsetOf text ⟨line, column⟩ < offset := by
  induction text using breaks_induction generalizing offset line column with
  | nil => cases offset <;> cases hline
  | pair rest ih =>
    match offset with
    | 0 => rw [feedPlace_zero] at hline; cases hline
    | 1 => rw [feedPlace_inner (by decide), feedPlace_zero] at hline; cases hline
    | offset + 2 =>
      rw [feedPlace_inner (by decide), feedPlace_feed] at hline
      cases line with
      | zero =>
        rw [(offsetOf_break rawLines_pair column).1]
        exact Nat.succ_pos _
      | succ line =>
        have hrest := ih column (Nat.lt_of_succ_lt_succ hline)
        rw [(offsetOf_break rawLines_pair column).2, List.length_cons, List.length_singleton]
        omega
  | alone c rest hbreak halone ih =>
    have hlines := rawLines_break hbreak halone
    cases offset with
    | zero => rw [feedPlace_zero] at hline; cases hline
    | succ offset =>
      by_cases hfeed : c = '\n'
      · obtain rfl := hfeed
        rw [feedPlace_feed] at hline
        cases line with
        | zero =>
          rw [(offsetOf_break hlines column).1]
          exact Nat.succ_pos _
        | succ line =>
          have hrest := ih column (Nat.lt_of_succ_lt_succ hline)
          rw [(offsetOf_break hlines column).2, List.length_singleton]
          omega
      · rw [feedPlace_inner hfeed] at hline
        cases line with
        | zero =>
          -- A line feed behind the break keeps the place behind the break.
          have hrest := ih 0 hline
          have hcolumn := charColumn_le (dropLineFeed [c]) column
          have hdrop := length_dropLineFeed_le [c]
          rw [(offsetOf_break hlines column).1]
          rw [List.length_singleton] at hdrop
          omega
        | succ line =>
          have hrest := ih column (Nat.lt_of_succ_lt hline)
          rw [(offsetOf_break hlines column).2, List.length_singleton]
          omega
  | plain c rest hplain ih =>
    have hfeed : c ≠ '\n' := fun heq => not_feed_or_return hplain (Or.inl heq)
    cases offset with
    | zero => rw [feedPlace_zero] at hline; cases hline
    | succ offset =>
      rw [feedPlace_inner hfeed] at hline
      cases line with
      | zero =>
        rw [(offsetOf_inner hplain column).1]
        split
        · exact Nat.succ_pos _
        · exact Nat.succ_lt_succ (ih _ hline)
      | succ line =>
        rw [(offsetOf_inner hplain column).2]
        exact Nat.succ_lt_succ (ih column hline)

/-- The offset that a document finds for the place of an offset. -/
def foundOffset (text : Text) (offset : Nat) : Nat :=
  byteOffset text (feedPlace text offset).1 (feedPlace text offset).2

/-- The start is found. -/
theorem foundOffset_zero (text : Text) : foundOffset text 0 = 0 := by
  unfold foundOffset
  rw [feedPlace_zero]
  exact byteOffset_start text

/-- Behind a carriage return and a line feed the rest is searched. -/
theorem foundOffset_pair (rest : Text) (offset : Nat) :
    foundOffset ('\r' :: '\n' :: rest) (offset + 2) = foundOffset rest offset + 2 := by
  unfold foundOffset
  rw [feedPlace_inner (by decide), feedPlace_feed, if_neg (Nat.succ_ne_zero _),
    (byteOffset_break rawLines_pair _).2, Nat.add_comm]
  rfl

/-- Behind a line feed the rest is searched. -/
theorem foundOffset_feed (rest : Text) (offset : Nat) :
    foundOffset ('\n' :: rest) (offset + 1) = foundOffset rest offset + 1 := by
  have hlines : rawLines ('\n' :: rest) = ['\n'] :: rawLines rest :=
    rawLines_break (by decide) fun heq => absurd heq (by decide)
  unfold foundOffset
  rw [feedPlace_feed, (byteOffset_break hlines _).2, Nat.add_comm]
  rfl

/-- Behind a character that ends no line the rest is searched. -/
theorem foundOffset_plain (hplain : isBreak c = false) (rest : Text) (offset : Nat) :
    foundOffset (c :: rest) (offset + 1) = foundOffset rest offset + 1 := by
  have hfeed : c ≠ '\n' := fun heq => not_feed_or_return hplain (Or.inl heq)
  unfold foundOffset
  rw [feedPlace_inner hfeed]
  cases (feedPlace rest offset).1 with
  | zero => exact (byteOffset_inner hplain _).1
  | succ line => exact (byteOffset_inner hplain _).2 line

/-- Behind another break the document is a line further than the place says, and finds only the
offset directly behind the break. -/
theorem foundOffset_other (hbreak : isBreak c = true) (halone : c = '\r' → rest.head? ≠ some '\n')
    (hfeed : c ≠ '\n') (offset : Nat) :
    foundOffset (c :: rest) (offset + 1) ≤ offset + 1 ∧
      (foundOffset (c :: rest) (offset + 1) = offset + 1 ↔ offset = 0) := by
  have hlines := rawLines_break hbreak halone
  unfold foundOffset
  rw [feedPlace_inner hfeed]
  cases hline : (feedPlace rest offset).1 with
  | zero =>
    have hwidth := Text.utf8Width_pos c
    have hkept : dropLineFeed [c] = [c] := by simp [dropLineFeed, hfeed]
    have hcolumn (bytes : Nat) : byteColumn [c] (Text.utf8Width c + bytes) = 1 := by
      simp only [byteColumn]
      rw [if_neg (by omega)]
    rw [if_pos rfl, (byteOffset_break hlines _).1, hkept, hcolumn]
    omega
  | succ line =>
    have hlt := offsetOf_lt_of_line_lt
      (utf16Column (lineText rest line) (feedPlace rest offset).2)
      (show line < (feedPlace rest offset).1 by omega)
    rw [if_neg (Nat.succ_ne_zero _), (byteOffset_break hlines _).2, List.length_singleton]
    unfold byteOffset
    dsimp only
    omega

/-- The offset that a document finds for a place is not behind it, and it is the place itself just
if all breaks before the last character in front of the place are line feeds, or belong to one. -/
theorem foundOffset_spec (hle : offset ≤ text.length) (hsplits : ¬SplitsReturn text offset) :
    foundOffset text offset ≤ offset ∧
      (foundOffset text offset = offset ↔ FeedsOnly text (offset - 1)) := by
  have hstart (text : Text) : foundOffset text 0 ≤ 0 ∧
      (foundOffset text 0 = 0 ↔ FeedsOnly text (0 - 1)) := by
    rw [foundOffset_zero]
    exact ⟨Nat.le_refl 0, iff_of_true rfl (feedsOnly_zero text)⟩
  induction text using breaks_induction generalizing offset with
  | nil =>
    obtain rfl := Nat.le_zero.mp hle
    exact hstart []
  | pair rest ih =>
    match offset with
    | 0 => exact hstart _
    | 1 => exact absurd (splitsReturn_succ.mpr (Or.inl ⟨rfl, rfl, rfl⟩)) hsplits
    | offset + 2 =>
      obtain ⟨hbound, hexact⟩ := ih (by simpa using hle) fun hrest =>
        hsplits (splitsReturn_succ.mpr (Or.inr (splitsReturn_succ.mpr (Or.inr hrest))))
      rw [foundOffset_pair, Nat.add_succ_sub_one, feedsOnly_pred_cons (fun _ => Or.inr ⟨rfl, rfl⟩),
        Nat.add_sub_cancel, feedsOnly_pred_cons (fun _ => Or.inl rfl), ← hexact]
      omega
  | alone c rest hbreak halone ih =>
    cases offset with
    | zero => exact hstart _
    | succ offset =>
      obtain ⟨hbound, hexact⟩ := ih (by simpa using hle) fun hrest =>
        hsplits (splitsReturn_succ.mpr (Or.inr hrest))
      rw [Nat.add_sub_cancel]
      by_cases hfeed : c = '\n'
      · obtain rfl := hfeed
        rw [foundOffset_feed, feedsOnly_pred_cons (fun _ => Or.inl rfl), ← hexact]
        omega
      · have hfeeds : FeedsOnly (c :: rest) offset ↔ offset = 0 := by
          cases offset with
          | zero => exact iff_of_true (feedsOnly_zero _) rfl
          | succ offset =>
            refine iff_of_false (fun hfeeds => ?_) (Nat.succ_ne_zero _)
            rcases (feedsOnly_succ.mp hfeeds).1 hbreak with hc | ⟨hc, hhead⟩
            · exact hfeed hc
            · exact halone hc hhead
        rw [hfeeds]
        exact foundOffset_other hbreak halone hfeed offset
  | plain c rest hplain ih =>
    cases offset with
    | zero => exact hstart _
    | succ offset =>
      obtain ⟨hbound, hexact⟩ := ih (by simpa using hle) fun hrest =>
        hsplits (splitsReturn_succ.mpr (Or.inr hrest))
      rw [foundOffset_plain hplain, Nat.add_sub_cancel, feedsOnly_pred_cons (by simp [hplain]),
        ← hexact]
      omega

/-! ## Lines between line feeds -/

/-- A line stands in a text, and the places on it have its number and the bytes in front of them on
the line. -/
def LineAt (text : Text) (number : Nat) (line : Text) : Prop :=
  ∃ front behind, text = front ++ (line ++ behind) ∧
    ∀ column ≤ line.length,
      feedPlace text (front.length + column) = (number, Text.utf8Length (line.take column))

/-- A shorter line stands at the same place. -/
theorem LineAt.shorten {number : Nat} {line piece : Text} (hpiece : LineAt text number piece)
    (hshorter : line <+: piece) : LineAt text number line := by
  obtain ⟨front, behind, heq, hplaces⟩ := hpiece
  obtain ⟨tail, rfl⟩ := hshorter
  refine ⟨front, tail ++ behind, by rw [heq, List.append_assoc], fun column hcolumn => ?_⟩
  rw [hplaces column (by rw [List.length_append]; omega), List.take_append_of_le_length hcolumn]

/-- The pieces between line feeds stand where their numbers say. -/
theorem lineAt_of_splitLineFeeds {number : Nat} {piece : Text}
    (hpiece : (Text.splitLineFeeds text)[number]? = some piece) : LineAt text number piece := by
  -- The first piece is at the start, so that a character in front of it can join it.
  have hplaced : ∃ front behind, text = front ++ (piece ++ behind) ∧ (number = 0 → front = []) ∧
      ∀ column ≤ piece.length,
        feedPlace text (front.length + column) = (number, Text.utf8Length (piece.take column)) := by
    induction text generalizing number piece with
    | nil =>
      obtain ⟨rfl, rfl⟩ : number = 0 ∧ [] = piece := by
        simpa [Text.splitLineFeeds, List.getElem?_singleton] using hpiece
      exact ⟨[], [], rfl, fun _ => rfl, fun _ _ => by simp [feedPlace, Text.utf8Length]⟩
    | cons c rest ih =>
      by_cases hfeed : c = '\n'
      · obtain rfl := hfeed
        rw [Text.splitLineFeeds, if_pos rfl] at hpiece
        cases number with
        | zero =>
          cases hpiece
          refine ⟨[], _, rfl, fun _ => rfl, fun column hcolumn => ?_⟩
          obtain rfl := Nat.le_zero.mp hcolumn
          exact feedPlace_zero _
        | succ number =>
          obtain ⟨front, behind, rfl, -, hplaces⟩ := ih hpiece
          refine ⟨'\n' :: front, behind, rfl, fun hzero => absurd hzero (Nat.succ_ne_zero _),
            fun column hcolumn => ?_⟩
          rw [List.length_cons, Nat.add_right_comm, feedPlace_feed, hplaces column hcolumn]
      · obtain ⟨first, pieces, hrest, hsplit⟩ := Text.exists_splitLineFeeds_cons hfeed rest
        rw [hsplit] at hpiece
        rw [hrest] at ih
        cases number with
        | zero =>
          cases hpiece
          obtain ⟨front, behind, heq, hfront, hplaces⟩ := ih List.getElem?_cons_zero
          obtain rfl := hfront rfl
          refine ⟨[], behind, by rw [heq]; rfl, fun _ => rfl, fun column hcolumn => ?_⟩
          cases column with
          | zero => exact feedPlace_zero _
          | succ column =>
            have hplace := hplaces column (Nat.le_of_succ_le_succ hcolumn)
            rw [List.length_nil, Nat.zero_add] at hplace
            rw [List.length_nil, Nat.zero_add, feedPlace_inner hfeed, hplace]
            rfl
        | succ number =>
          have hlater : (first :: pieces)[number + 1]? = some piece := hpiece
          obtain ⟨front, behind, rfl, -, hplaces⟩ := ih hlater
          refine ⟨c :: front, behind, rfl, fun hzero => absurd hzero (Nat.succ_ne_zero _),
            fun column hcolumn => ?_⟩
          rw [List.length_cons, Nat.add_right_comm, feedPlace_inner hfeed, hplaces column hcolumn]
          rfl
  obtain ⟨front, behind, heq, -, hplaces⟩ := hplaced
  exact ⟨front, behind, heq, hplaces⟩

/-- Every line of a text stands where its number says. -/
theorem lineAt_of_lines {number : Nat} {line : Text}
    (hline : (Text.lines text)[number]? = some line) : LineAt text number line := by
  obtain ⟨piece, hpiece, hshorter⟩ := Text.exists_piece_of_lines hline
  exact (lineAt_of_splitLineFeeds hpiece).shorten hshorter

end LuaAssist.Document

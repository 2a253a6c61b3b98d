import LuaAssist.Proofs.Token.OpenToken
import LuaAssist.Token.Highlight
import Mathlib.Algebra.Ring.Nat

/-!
# Lines read again from stored states

An editor keeps one integer of 32 bits for each line, which stands for what is open behind it, and
a line can be read again from the integer of the line above. Encoding loses nothing up to a level
that no line of less than 2 ^ 30 bytes can open, so the lines read again are those of the document.
-/

namespace LuaAssist

/-- A text has at least as many bytes as characters. -/
theorem Text.length_le_utf8Length (text : Text) : text.length ≤ utf8Length text := by
  induction text with
  | nil => exact Nat.le_refl _
  | cons c rest ih =>
    have hpos := utf8Width_pos c
    rw [List.length_cons, utf8Length]
    omega

/-! ## States as integers -/

namespace LineState

variable {level offset length : Nat} {state : LineState}

/-- A level is encoded as it is as long as its integer stays within the limit. -/
theorem rawOf_of_le (hlimit : 2 * level + offset ≤ rawLimit) :
    rawOf level offset = 2 * level + offset := by
  unfold rawOf
  rw [if_pos (by omega)]
  omega

/-- Every state is encoded between zero and the limit. -/
theorem toRaw_bounds (state : LineState) : 0 ≤ state.toRaw ∧ state.toRaw ≤ rawLimit := by
  have hlimit : ∀ level offset, rawOf level offset ≤ rawLimit := fun _ _ => Nat.min_le_right _ _
  cases state with
  | code => decide
  | longComment level => exact ⟨Int.natCast_nonneg _, Int.ofNat_le.mpr (hlimit level 2)⟩
  | longString level => exact ⟨Int.natCast_nonneg _, Int.ofNat_le.mpr (hlimit level 1)⟩

/-- Reading an integer and encoding what it means gives the integer back, or zero for a negative
one. -/
theorem toRaw_ofRaw {raw : Int} (hlimit : raw ≤ rawLimit) : (ofRaw raw).toRaw = max raw 0 := by
  unfold ofRaw
  split
  · rw [toRaw]
    omega
  · split <;>
    · rw [toRaw, rawOf_of_le (by omega)]
      omega

/-- A state that a text of some length can leave open: its brackets take two characters beside the
level, and a comment begins with two dashes more. -/
inductive OpenedIn (length : Nat) : LineState → Prop where
  | code : OpenedIn length .code
  | longString {level : Nat} (hlevel : level + 2 ≤ length) : OpenedIn length (.longString level)
  | longComment {level : Nat} (hlevel : level + 4 ≤ length) : OpenedIn length (.longComment level)

/-- What a longer text can leave open. -/
theorem OpenedIn.mono {longer : Nat} (hopened : state.OpenedIn length) (hle : length ≤ longer) :
    state.OpenedIn longer := by
  cases hopened with
  | code => exact .code
  | longString hlevel => exact .longString (hlevel.trans hle)
  | longComment hlevel => exact .longComment (hlevel.trans hle)

/-- A state that a line of less than 2 ^ 30 characters can leave open is read from its integer. -/
theorem OpenedIn.ofRaw_toRaw (hopened : state.OpenedIn length) (hlength : length < 2 ^ 30) :
    ofRaw state.toRaw = state := by
  have hlimit : rawLimit = 2 ^ 31 - 1 := by decide
  cases hopened with
  | code => rfl
  | @longString level hlevel =>
    rw [toRaw, rawOf_of_le (by omega), ofRaw, if_neg (by omega), if_pos (by omega)]
    congr 1
    omega
  | @longComment level hlevel =>
    rw [toRaw, rawOf_of_le (by omega), ofRaw, if_neg (by omega), if_neg (by omega)]
    congr 1
    omega

/-- The integer of 32 bits that is stored for a state. -/
def stored (state : LineState) : Int32 := Int32.ofInt state.toRaw

/-- The state that a stored integer stands for. -/
def ofStored (raw : Int32) : LineState := ofRaw raw.toInt

/-- Every state has an integer of 32 bits. -/
theorem toInt_stored (state : LineState) : state.stored.toInt = state.toRaw := by
  have hlimit : rawLimit = 2 ^ 31 - 1 := by decide
  obtain ⟨hlow, hhigh⟩ := state.toRaw_bounds
  exact Int32.toInt_ofInt_of_le (by omega) (by omega)

end LineState

/-! ## What a line leaves open -/

namespace Lexer

variable {memory : Memory} {c : Char} {rest line text : Text} {level length : Nat}
  {state : LineState}

/-- A long token leaves nothing open, or its own level. -/
theorem state_readLong (form : LongForm) (level skip : Nat) (rest : Text) :
    (readLong form level skip rest).state = .code ∨
      (readLong form level skip rest).state = form.state level := by
  unfold readLong
  split
  · exact Or.inl rfl
  · exact Or.inr rfl

/-- What a comment leaves open is opened in it, of which the first dash is read before. -/
theorem openedIn_readComment (rest : Text) :
    (readComment ('-' :: rest)).state.OpenedIn (rest.length + 2) := by
  by_cases hopen : ∃ body level, rest = '[' :: body ∧ longOpen? body = some level
  · obtain ⟨body, level, rfl, hlevel⟩ := hopen
    have hle := lt_of_longOpen? hlevel
    rw [readComment_of_longOpen? hlevel]
    rcases state_readLong .comment level (level + 3) ('-' :: '[' :: body) with hcode | hcomment
    · rw [hcode]
      exact .code
    · rw [hcomment]
      exact .longComment (by rw [List.length_cons]; omega)
  · rw [readComment_line fun body hbody => Option.eq_none_iff_forall_ne_some.mpr
      fun level hlevel => hopen ⟨body, level, hbody, hlevel⟩]
    exact .code

/-- What a token leaves open is opened in it. -/
theorem openedIn_read (memory : Memory) (c : Char) (rest : Text) :
    (read memory c rest).state.OpenedIn (rest.length + 1) := by
  unfold read
  split
  · exact .code
  split
  · rename_i hcomment
    simp only [Bool.and_eq_true, decide_eq_true_eq] at hcomment
    obtain ⟨body, rfl⟩ := List.head?_eq_some_iff.mp hcomment.2
    exact openedIn_readComment body
  split
  · rename_i level hlevel
    split at hlevel
    · have hle := lt_of_longOpen? hlevel
      rcases state_readLong .string level (level + 1) rest with hcode | hstring
      · rw [hcode]
        exact .code
      · rw [hstring]
        exact .longString (by omega)
    · cases hlevel
  split
  · exact .code
  split
  · split <;> exact .code
  split
  · exact .code
  split <;> exact .code

/-- Behind a text of code stands what was open in front of it, if it is empty, or what is opened
in it. -/
theorem openedIn_tokensFrom (hstate : state.OpenedIn length) (htext : text.length ≤ length) :
    (tokensFrom memory state text).state.OpenedIn length := by
  fun_induction tokensFrom memory state text with
  | case1 => exact hstate
  | case2 memory state c rest reading token scan ih =>
    rw [List.length_cons] at htext
    exact ih ((openedIn_read memory c rest).mono htext) (by rw [List.length_drop]; omega)

/-- A line at whose start a long token is open leaves that open or what is opened behind it. -/
theorem openedIn_continueLong {form : LongForm} (hform : (form.state level).OpenedIn length)
    (hline : line.length ≤ length) : (continueLong form level line).state.OpenedIn length := by
  unfold continueLong
  split
  · exact openedIn_tokensFrom .code (by rw [List.length_drop]; omega)
  · unfold withFront
    split <;> exact hform

/-- A line keeps what a text of its length can open. -/
theorem openedIn_scan (hstate : state.OpenedIn length) (hline : line.length ≤ length) :
    (scan line state).state.OpenedIn length := by
  cases state with
  | code => exact openedIn_tokensFrom .code hline
  | longComment level => exact openedIn_continueLong hstate hline
  | longString level => exact openedIn_continueLong hstate hline

end Lexer

/-! ## Lines from stored states -/

namespace Highlight

open LineState (ofStored)

/-- Scans lines for display, each from the integer that is stored for the one above. -/
def restored (raw : Int32) : List Text → List LineScan
  | [] => []
  | text :: rest =>
    let scan := line text (ofStored raw)
    scan :: restored scan.state.stored rest

/-- From the integer of what is open above them, short lines are scanned as from that state. -/
theorem restored_eq_linesFrom {state : LineState} {lines : List Text} {length : Nat}
    (hlength : length < 2 ^ 30) (hstate : state.OpenedIn length)
    (hlines : ∀ line ∈ lines, line.length ≤ length) :
    restored state.stored lines = linesFrom state lines := by
  induction lines generalizing state with
  | nil => rfl
  | cons text rest ih =>
    obtain ⟨htext, hrest⟩ := List.forall_mem_cons.mp hlines
    have hopen : ofStored state.stored = state := by
      rw [ofStored, LineState.toInt_stored, hstate.ofRaw_toRaw hlength]
    have hbehind : (line text state).state.OpenedIn length := Lexer.openedIn_scan hstate htext
    rw [restored, linesFrom, hopen, ih hbehind hrest]

/-- A document of lines with less than 2 ^ 30 bytes each is scanned the same when every line is
read from the integer of 32 bits that is stored for the line above, and zero stands for the first
one. Every such integer that is not negative is what is stored for the state that it stands for,
and a negative one stands for code, like zero. -/
theorem restored_eq_document {text : Text}
    (hshort : ∀ line ∈ Text.lines text, Text.utf8Length line < 2 ^ 30) :
    restored 0 (Text.lines text) = document text ∧
      ∀ raw : Int32, (LineState.ofRaw raw.toInt).toRaw = max raw.toInt 0 := by
  refine ⟨?_, fun raw => LineState.toRaw_ofRaw ?_⟩
  · refine restored_eq_linesFrom (show 2 ^ 30 - 1 < 2 ^ 30 by decide) .code fun line hline => ?_
    have hbytes := hshort line hline
    have hlength := line.length_le_utf8Length
    omega
  · have hlimit : LineState.rawLimit = 2 ^ 31 - 1 := by decide
    have hbits := raw.toInt_lt
    omega

/-- A comment and a string of some level that go over several lines, and the largest integer. -/
theorem restored_eq_document_open :
    (∀ line ∈ Text.lines "x --[==[ a\n]] b\n]==] = [=[\n]=]".toList,
      Text.utf8Length line < 2 ^ 30) ∧
      restored 0 (Text.lines "x --[==[ a\n]] b\n]==] = [=[\n]=]".toList) =
        document "x --[==[ a\n]] b\n]==] = [=[\n]=]".toList ∧
      (LineState.ofRaw (2147483647 : Int32).toInt).toRaw = max (2147483647 : Int32).toInt 0 := by
  have hshort : ∀ line ∈ Text.lines "x --[==[ a\n]] b\n]==] = [=[\n]=]".toList,
      Text.utf8Length line < 2 ^ 30 := by decide
  obtain ⟨hrestored, hraw⟩ := restored_eq_document hshort
  exact ⟨hshort, hrestored, hraw 2147483647⟩

end Highlight

end LuaAssist

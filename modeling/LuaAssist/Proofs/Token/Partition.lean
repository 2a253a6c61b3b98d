import LuaAssist.Token.Lexer

/-!
# Tokens partition their line

The texts of the tokens of a line, one after the other, are the line, so the span of a token
is told by the tokens in front of it.
-/

namespace LuaAssist

/-- A text without bytes is empty. -/
theorem Text.utf8Length_eq_zero {text : Text} : utf8Length text = 0 ↔ text = [] := by
  cases text with
  | nil => simp [utf8Length]
  | cons c rest =>
    have hpos := utf8Width_pos c
    simp only [utf8Length, reduceCtorEq, iff_false]
    omega

/-! ## Spans -/

namespace Span

/-- A span further to the right. -/
def shift (distance : Nat) (span : Span) : Span := { span with start := span.start + distance }

end Span

/-- The bytes of several tokens. -/
def Token.bytes (tokens : List Token) : Nat := Text.utf8Length (tokens.map Token.text).flatten

/-- No tokens have no bytes. -/
@[simp] theorem Token.bytes_nil : Token.bytes [] = 0 := rfl

/-- The bytes of the first token and of the others. -/
@[simp] theorem Token.bytes_cons (token : Token) (tokens : List Token) :
    Token.bytes (token :: tokens) = Text.utf8Length token.text + Token.bytes tokens := by
  simp [Token.bytes]

/-- The bytes of both parts. -/
theorem Token.bytes_append (tokens others : List Token) :
    Token.bytes (tokens ++ others) = Token.bytes tokens + Token.bytes others := by
  simp [Token.bytes]

namespace LineScan

/-- Spans of tokens behind other tokens start where those end. -/
theorem spansFrom_append (start : Nat) (tokens others : List Token) :
    spansFrom start (tokens ++ others) =
      spansFrom start tokens ++ spansFrom (start + Token.bytes tokens) others := by
  induction tokens generalizing start with
  | nil => rfl
  | cons token tokens ih =>
    simp only [List.cons_append, spansFrom, ih, Token.bytes_cons, Nat.add_assoc]

/-- Spans told from further to the right are shifted. -/
theorem spansFrom_shift (start distance : Nat) (tokens : List Token) :
    spansFrom (start + distance) tokens = (spansFrom start tokens).map (Span.shift distance) := by
  induction tokens generalizing start with
  | nil => rfl
  | cons token tokens ih =>
    simp only [spansFrom, List.map_cons, Span.shift, ← ih, Nat.add_right_comm]

end LineScan

namespace Lexer

/-- The tokens of a text cover it. -/
theorem flatten_tokensFrom (memory : Memory) (state : LineState) (text : Text) :
    ((tokensFrom memory state text).tokens.map Token.text).flatten = text := by
  fun_induction tokensFrom memory state text with
  | case1 => rfl
  | case2 memory state c rest reading token scan ih =>
    simp only [List.map_cons, List.flatten_cons, scan, ih, token, List.cons_append,
      List.take_append_drop]

/-- The tokens of a line cover it, whatever is open at its start. -/
theorem flatten_scan (line : Text) (state : LineState) :
    ((scan line state).tokens.map Token.text).flatten = line := by
  have hlong : ∀ (form : LongForm) (level : Nat),
      ((continueLong form level line).tokens.map Token.text).flatten = line := by
    intro form level
    unfold continueLong
    split
    · simp only [List.map_cons, List.flatten_cons, flatten_tokensFrom, List.take_append_drop]
    · unfold withFront
      split
      · rename_i hempty
        simp [List.isEmpty_iff.mp hempty]
      · simp
  cases state with
  | code => exact flatten_tokensFrom _ _ _
  | longComment level => exact hlong _ _
  | longString level => exact hlong _ _

end Lexer

end LuaAssist

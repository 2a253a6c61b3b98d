import LuaAssist.Proofs.Token.OpenToken
import LuaAssist.Proofs.Token.Partition

/-!
# Lines one by one and lines joined

A line that ends within a long comment or string, and the line behind it, have the same tokens
when they are read one by one and when they are read as one text, except that the long token
is cut in two at the break. Only the finer category of a name can differ: a line starts without
memory of a `local` or a `.` on the line before, which the joined text has.
-/

namespace LuaAssist

/-! ## Categories without memory -/

/-- The category of a token, as far as it does not depend on the tokens before: local names
and fields are names like others. -/
def TokenKind.unrefined : TokenKind → TokenKind
  | .localName | .field => .identifier
  | kind => kind

/-- A token with its category as far as that does not depend on the tokens before. -/
def Token.unrefined (token : Token) : Token := { token with kind := token.kind.unrefined }

/-- A span with its category as far as that does not depend on the tokens before. -/
def Span.unrefined (span : Span) : Span := { span with kind := span.kind.unrefined }

/-- The spans of tokens do not need their finer categories. -/
theorem LineScan.spansFrom_unrefined (start : Nat) (tokens : List Token) :
    spansFrom start (tokens.map Token.unrefined) =
      (spansFrom start tokens).map Span.unrefined := by
  induction tokens generalizing start with
  | nil => rfl
  | cons token tokens ih =>
    simp only [List.map_cons, spansFrom, ih, Token.unrefined, Span.unrefined]

namespace Lexer

/-- What is remembered decides no more than the finer category of a name. -/
theorem nameKind_unrefined (memory : Memory) (word : Text) :
    (memory.nameKind word).unrefined =
      if Words.isReserved word then .keyword
      else if Words.isMetamethod word then .metamethod
      else .identifier := by
  unfold Memory.nameKind
  split
  · rfl
  split
  · rfl
  split
  · rfl
  split <;> rfl

/-- Where a token ends and what it leaves open does not depend on the tokens before. -/
theorem read_memory (memory other : Memory) (c : Char) (rest : Text) :
    (read memory c rest).more = (read other c rest).more ∧
      (read memory c rest).state = (read other c rest).state ∧
      (read memory c rest).kind.unrefined = (read other c rest).kind.unrefined := by
  unfold read
  split
  · exact ⟨rfl, rfl, rfl⟩
  split
  · exact ⟨rfl, rfl, rfl⟩
  split
  · exact ⟨rfl, rfl, rfl⟩
  split
  · exact ⟨rfl, rfl, rfl⟩
  split
  · split <;> exact ⟨rfl, rfl, rfl⟩
  split
  · refine ⟨rfl, rfl, ?_⟩
    simp only [Reading.closed, nameKind_unrefined]
  split <;> exact ⟨rfl, rfl, rfl⟩

/-- What is remembered in front of a text changes no more than finer categories in it. -/
theorem tokensFrom_memory (memory other : Memory) (state : LineState) (text : Text) :
    (tokensFrom memory state text).state = (tokensFrom other state text).state ∧
      (tokensFrom memory state text).tokens.map Token.unrefined =
        (tokensFrom other state text).tokens.map Token.unrefined := by
  fun_induction tokensFrom memory state text generalizing other with
  | case1 memory state => simp [tokensFrom]
  | case2 memory state c rest reading token scan ih =>
    obtain ⟨hmore, hstate, hkind⟩ := read_memory memory other c rest
    have ih := ih (other.after ⟨(read other c rest).kind, c :: rest.take (read other c rest).more⟩)
    rw [tokensFrom]
    simp only [scan, token, reading] at ih ⊢
    rw [← hmore, ← hstate]
    rw [← hmore] at ih
    refine ⟨ih.1, ?_⟩
    simp only [List.map_cons, ih.2, Token.unrefined, hkind]

/-! ## Behind the break -/

/-- The tokens of a text from a long token on that is open at a break: `opened` is what stands of
it in front of the break and `next` what follows the break. -/
def resumed (memory : Memory) (form : LongForm) (level : Nat) (opened next : Text) : LineScan :=
  match longClose? level next with
  | some length =>
    let token : Token := ⟨form.kind, opened ++ '\n' :: next.take length⟩
    let scan := tokensFrom (memory.after token) .code (next.drop length)
    ⟨token :: scan.tokens, scan.state⟩
  | none => ⟨[⟨form.kind, opened ++ '\n' :: next⟩, ⟨.lineEnd, []⟩], form.state level⟩

/-- A long token, if it has any text. -/
def longToken (kind : TokenKind) (text : Text) : List Token :=
  if text = [] then [] else [⟨kind, text⟩]

/-- Behind a break a long token goes on as on a line of its own. -/
theorem resumed_eq (memory : Memory) (form : LongForm) (level : Nat) (opened next : Text) :
    (resumed memory form level opened next).state = (continueLong form level next).state ∧
      ∃ leading rest rest', (leading = [] ↔ next = []) ∧
        (continueLong form level next).tokens = longToken form.kind leading ++ rest ∧
        (resumed memory form level opened next).tokens =
          ⟨form.kind, opened ++ '\n' :: leading⟩ :: rest' ∧
        rest'.map Token.unrefined = rest.map Token.unrefined := by
  cases hclose : longClose? level next with
  | some length =>
    have hpos := longClose?_pos hclose
    have hle := longClose?_le hclose
    have hleading : next.take length ≠ [] := by
      rw [← List.length_pos_iff, List.length_take]
      omega
    have hnext : next ≠ [] := by
      rintro rfl
      exact hleading List.take_nil
    have hmemory := tokensFrom_memory
      (memory.after ⟨form.kind, opened ++ '\n' :: next.take length⟩)
      (Memory.start.after ⟨form.kind, next.take length⟩) .code (next.drop length)
    simp only [resumed, continueLong, hclose]
    exact ⟨hmemory.1, next.take length, _, _, iff_of_false hleading hnext,
      by rw [longToken, if_neg hleading]; rfl, rfl, hmemory.2⟩
  | none =>
    simp only [resumed, continueLong, hclose, withFront]
    by_cases hnext : next = []
    · subst hnext
      exact ⟨rfl, [], _, _, Iff.rfl, rfl, rfl, rfl⟩
    · rw [if_neg (by simpa using hnext)]
      refine ⟨rfl, next, [⟨.lineEnd, []⟩], _, Iff.rfl, ?_, rfl, rfl⟩
      rw [longToken, if_neg hnext]
      rfl

/-- A token that is open at a break, read with what follows the break. -/
theorem tokensFrom_reopened {memory : Memory} {c : Char} {rest next : Text} {form : LongForm}
    {level : Nat}
    (hread : read memory c (rest ++ '\n' :: next) = reopened form level rest.length next) :
    tokensFrom memory .code (c :: (rest ++ '\n' :: next)) =
      resumed memory form level (c :: rest) next := by
  rw [tokensFrom, hread, reopened, resumed]
  cases longClose? level next with
  | some length =>
    simp only [Reading.closed, take_append_break, drop_append_break, List.cons_append]
  | none =>
    have hlength : (rest ++ '\n' :: next).length ≤ rest.length + 1 + next.length := by
      simp only [List.length_append, List.length_cons]
      omega
    simp only [List.take_of_length_le hlength, List.drop_of_length_le hlength, tokensFrom,
      List.cons_append]

/-- A line on which a long token is left open, and what the tokens are when the line goes on
behind a break. -/
theorem tokensFrom_append_break {memory : Memory} {state : LineState} {line : Text}
    (hcode : state = .code) (hopen : (tokensFrom memory state line).state ≠ .code) :
    ∃ form, (form = LongForm.string ∨ form = LongForm.comment) ∧
      ∃ level kept opened memory', opened ≠ [] ∧
        tokensFrom memory state line =
          ⟨kept ++ [⟨form.kind, opened⟩, ⟨.lineEnd, []⟩], form.state level⟩ ∧
        ∀ next, tokensFrom memory .code (line ++ '\n' :: next) =
          ⟨kept ++ (resumed memory' form level opened next).tokens,
            (resumed memory' form level opened next).state⟩ := by
  fun_induction tokensFrom memory state line with
  | case1 memory state => exact absurd hcode hopen
  | case2 memory state c rest reading token scan ih =>
    have hcontinues : ∀ next, Continues rest.length next reading
        (read memory c (rest ++ '\n' :: next)) := fun _ => read_continues
    by_cases hclosed : reading.state = .code
    · -- The token ends in front of the break, for else nothing would be open behind it.
      have hlt : reading.more < rest.length := by
        by_contra hge
        have hdrop : rest.drop reading.more = [] := List.drop_of_length_le (by omega)
        simp only [scan, hdrop, hclosed, tokensFrom] at hopen
        exact hopen rfl
      obtain ⟨form, hform, level, kept, opened, memory', hne, hscan, hlonger⟩ := ih hclosed hopen
      refine ⟨form, hform, level, token :: kept, opened, memory', hne, ?_, fun next => ?_⟩
      · simp only [scan, hscan, List.cons_append]
      · have hread : read memory c (rest ++ '\n' :: next) = reading :=
          (hcontinues next).eq_of_lt hclosed hlt
        have hdrop : (rest ++ '\n' :: next).drop reading.more =
            rest.drop reading.more ++ '\n' :: next :=
          List.drop_append_of_le_length (by omega)
        have htake : (rest ++ '\n' :: next).take reading.more = rest.take reading.more :=
          List.take_append_of_le_length (by omega)
        rw [List.cons_append, tokensFrom, hread, hdrop, htake]
        have hlonger := hlonger next
        rw [hclosed]
        simp only [hlonger, List.cons_append, token]
    · obtain ⟨form, hform, level, hreading⟩ := (hcontinues []).exists_form hclosed
      refine ⟨form, hform, level, [], c :: rest, memory, List.cons_ne_nil _ _, ?_, fun next => ?_⟩
      · simp only [scan, token, hreading, List.take_length, List.drop_length, tokensFrom,
          List.nil_append]
      · have hstate : reading.state = form.state level := by rw [hreading]
        have hread := (hcontinues next).eq_reopened hform hstate
        rw [List.cons_append, tokensFrom_reopened hread]
        rfl

/-- A long token that is open at the start of a line, and what the tokens are when the line
goes on behind a break. Either the token is closed on the line, and then what is open behind it
is open in code, or it is the one that is left open. -/
theorem continueLong_append_break {form : LongForm} (hform : form = .string ∨ form = .comment)
    {level : Nat} {line : Text} (hopen : (continueLong form level line).state ≠ .code) :
    ∃ last, (last = LongForm.string ∨ last = LongForm.comment) ∧
      ∃ depth kept opened memory, (opened = [] ↔ line = []) ∧
        continueLong form level line =
          ⟨kept ++ longToken last.kind opened ++ [⟨.lineEnd, []⟩], last.state depth⟩ ∧
        ∀ next, continueLong form level (line ++ '\n' :: next) =
          ⟨kept ++ (resumed memory last depth opened next).tokens,
            (resumed memory last depth opened next).state⟩ := by
  cases hclose : longClose? level line with
  | some length =>
    have hpos := longClose?_pos hclose
    have hle := longClose?_le hclose
    simp only [continueLong, hclose] at hopen
    obtain ⟨last, hlast, depth, kept, opened, memory, hne, hscan, hlonger⟩ :=
      tokensFrom_append_break rfl hopen
    have hline : line ≠ [] := by
      rintro rfl
      simp only [List.length_nil] at hle
      omega
    refine ⟨last, hlast, depth, ⟨form.kind, line.take length⟩ :: kept, opened, memory,
      iff_of_false hne hline, ?_, fun next => ?_⟩
    · simp only [continueLong, hclose, hscan, longToken, if_neg hne, List.cons_append,
        List.append_assoc, List.nil_append]
    · simp only [continueLong, longClose?_append hclose, List.take_append_of_le_length hle,
        List.drop_append_of_le_length hle, hlonger, List.cons_append]
  | none =>
    refine ⟨form, hform, level, [], line, .start, Iff.rfl, ?_, fun next => ?_⟩
    · simp only [continueLong, hclose, withFront, longToken, List.isEmpty_iff, List.nil_append]
      split <;> rfl
    · simp only [continueLong, resumed, longClose?_append_break hclose]
      cases longClose? level next with
      | some length =>
        simp only [Option.map_some, take_append_break, drop_append_break, List.nil_append]
      | none => simp [withFront]

/-- A line on which something is left open, whatever is open at its start, and what its tokens
are when it goes on behind a break. -/
theorem scan_append_break {line : Text} {state : LineState}
    (hopen : (scan line state).state ≠ .code) :
    ∃ form, (form = LongForm.string ∨ form = LongForm.comment) ∧
      ∃ level kept opened memory, (opened = [] ↔ line = []) ∧
        scan line state =
          ⟨kept ++ longToken form.kind opened ++ [⟨.lineEnd, []⟩], form.state level⟩ ∧
        ∀ next, scan (line ++ '\n' :: next) state =
          ⟨kept ++ (resumed memory form level opened next).tokens,
            (resumed memory form level opened next).state⟩ := by
  cases state with
  | code =>
    obtain ⟨form, hform, level, kept, opened, memory, hne, hscan, hlonger⟩ :=
      tokensFrom_append_break rfl hopen
    have hline : line ≠ [] := by
      rintro rfl
      simp [scan, tokensFrom] at hopen
    refine ⟨form, hform, level, kept, opened, memory, iff_of_false hne hline, ?_, hlonger⟩
    simp only [scan, hscan, longToken, if_neg hne, List.append_assoc, List.cons_append,
      List.nil_append]
  | longComment level => exact continueLong_append_break (Or.inr rfl) hopen
  | longString level => exact continueLong_append_break (Or.inl rfl) hopen

/-- A line at whose start a long form is open goes on with it. -/
theorem scan_state {form : LongForm} (hform : form = .string ∨ form = .comment) (level : Nat)
    (line : Text) : scan line (form.state level) = continueLong form level line := by
  rcases hform with rfl | rfl <;> rfl

/-! ## Spans -/

/-- The span of a long token, if it has any text. -/
def longSpan (kind : TokenKind) (start length : Nat) : List Span :=
  if length = 0 then [] else [⟨kind, start, length⟩]

/-- The span of a long token. -/
theorem spansFrom_longToken (start : Nat) (kind : TokenKind) (text : Text) :
    LineScan.spansFrom start (longToken kind text) =
      longSpan kind start (Text.utf8Length text) := by
  unfold longToken longSpan
  by_cases hempty : text = []
  · rw [if_pos hempty, if_pos (Text.utf8Length_eq_zero.mpr hempty)]
    rfl
  · rw [if_neg hempty, if_neg (Text.utf8Length_eq_zero.not.mpr hempty)]
    rfl

/-- The bytes of a long token. -/
theorem bytes_longToken (kind : TokenKind) (text : Text) :
    Token.bytes (longToken kind text) = Text.utf8Length text := by
  unfold longToken
  by_cases hempty : text = []
  · rw [if_pos hempty, hempty]
    rfl
  · rw [if_neg hempty]
    simp

/-- A line that leaves a long token open, and the line behind it, read one by one and joined. In
both cases the same is open at the end. The spans of the joined text are those of the line, but
for its long token and its end, then one span for the long token with the break and the long
token in front of the next line, then the other spans of the next line, further to the right.
Only behind the long token the finer categories of names can differ. -/
theorem scan_joined (line next : Text) (state : LineState)
    (hopen : (scan line state).state ≠ .code) :
    (scan (line ++ '\n' :: next) state).state = (scan next (scan line state).state).state ∧
      ∃ form, (form = LongForm.string ∨ form = LongForm.comment) ∧
        (∃ level, (scan line state).state = form.state level) ∧
        ∃ kept start opened leading rest rest',
          start + opened = Text.utf8Length line ∧
          (opened = 0 ↔ line = []) ∧ (leading = 0 ↔ next = []) ∧
          (scan line state).spans =
            kept ++ longSpan form.kind start opened ++ [⟨.lineEnd, Text.utf8Length line, 0⟩] ∧
          (scan next (scan line state).state).spans = longSpan form.kind 0 leading ++ rest ∧
          (scan (line ++ '\n' :: next) state).spans =
            kept ++ ⟨form.kind, start, opened + 1 + leading⟩ :: rest' ∧
          rest'.map Span.unrefined =
            (rest.map (Span.shift (Text.utf8Length line + 1))).map Span.unrefined := by
  obtain ⟨form, hform, level, kept, opened, memory, hempty, hscan, hlonger⟩ :=
    scan_append_break hopen
  obtain ⟨hstate, leading, rest, rest', hnext, hbehind, hresumed, hrest⟩ :=
    resumed_eq memory form level opened next
  have hline : Token.bytes kept + Text.utf8Length opened = Text.utf8Length line := by
    have hflat := flatten_scan line state
    rw [hscan] at hflat
    rw [← hflat]
    simp [Token.bytes, ← bytes_longToken form.kind opened]
  have hstop : (scan line state).state = form.state level := by rw [hscan]
  rw [hstop, scan_state hform, hlonger]
  refine ⟨hstate, form, hform, ⟨level, rfl⟩, LineScan.spansFrom 0 kept, Token.bytes kept,
    Text.utf8Length opened, Text.utf8Length leading,
    LineScan.spansFrom (Text.utf8Length leading) rest,
    LineScan.spansFrom (Text.utf8Length line + 1 + Text.utf8Length leading) rest', hline,
    Text.utf8Length_eq_zero.trans hempty, Text.utf8Length_eq_zero.trans hnext, ?_, ?_, ?_, ?_⟩
  · rw [hscan, LineScan.spans, LineScan.spansFrom_append, LineScan.spansFrom_append,
      spansFrom_longToken, Nat.zero_add]
    have hstop : 0 + Token.bytes (kept ++ longToken form.kind opened) = Text.utf8Length line := by
      rw [Token.bytes_append, bytes_longToken, hline, Nat.zero_add]
    rw [hstop]
    rfl
  · rw [LineScan.spans, hbehind, LineScan.spansFrom_append, spansFrom_longToken, bytes_longToken,
      Nat.zero_add]
  · have hwidth : Text.utf8Length (opened ++ '\n' :: leading) =
        Text.utf8Length opened + 1 + Text.utf8Length leading := by
      rw [Text.utf8Length_append, Text.utf8Length, Nat.add_assoc]
      rfl
    rw [LineScan.spans, hresumed, LineScan.spansFrom_append, Nat.zero_add, LineScan.spansFrom,
      hwidth, ← hline]
    congr 3
    omega
  · rw [← LineScan.spansFrom_unrefined, hrest, LineScan.spansFrom_unrefined,
      ← LineScan.spansFrom_shift, Nat.add_comm]

/-- A comment that is opened behind a name and closed on the next line. -/
theorem scan_joined_comment :
    (scan "x --[=[ a".toList .code).state ≠ .code ∧
      (scan ("x --[=[ a".toList ++ '\n' :: "]] ]=] y".toList) .code).state =
        (scan "]] ]=] y".toList (scan "x --[=[ a".toList .code).state).state := by
  have hopen : (scan "x --[=[ a".toList .code).state ≠ .code := by decide +kernel
  exact ⟨hopen, (scan_joined _ _ _ hopen).1⟩

/-- The finer category of a name can differ: joined, the name behind the string is in the list of
a `local`, and on a line of its own it is not. -/
example :
    ((scan "local [[\n]] x".toList .code).tokens.map Token.kind,
      (scan "]] x".toList (scan "local [[".toList .code).state).tokens.map Token.kind) =
    ([.keyword, .whitespace, .string, .whitespace, .localName, .lineEnd],
      [.string, .whitespace, .identifier, .lineEnd]) := by
  decide +kernel

end Lexer

end LuaAssist

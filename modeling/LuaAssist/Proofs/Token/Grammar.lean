import LuaAssist.Proofs.Token.Words
import Mathlib.Data.List.TakeWhile

/-!
# The lexical grammar

What a token is and where it ends, told by the characters that stand where it begins: strings and
long brackets end with their first close, a comment with its line, a name where no part of a name
follows, and an operator is the longest one of the table. Every token of a line of code is of this
form.
-/

namespace LuaAssist.Lexer

variable {c quote : Char} {text rest inner : Text} {closes : Text → Prop} {level : Nat}

/-! ## Closes -/

/-- The text closes, and no shorter front of it does. -/
def ClosesFirst (closes : Text → Prop) (text : Text) : Prop :=
  closes text ∧ ∀ front, front <+: text → closes front → front = text

/-- No front of the text closes. -/
def NeverCloses (closes : Text → Prop) (text : Text) : Prop :=
  ∀ front, front <+: text → ¬closes front

/-- A front of a text in two parts is a front of the first, or goes on into the second. -/
theorem prefix_append_cases {lead front : Text} (hfront : front <+: lead ++ text) :
    front <+: lead ∨ ∃ inner, inner <+: text ∧ front = lead ++ inner := by
  rcases List.prefix_or_prefix_of_prefix hfront (List.prefix_append lead text) with
    hlead | ⟨inner, rfl⟩
  · exact Or.inl hlead
  · exact Or.inr ⟨inner, (List.prefix_append_right_inj lead).mp hfront, rfl⟩

/-- A lead in which nothing closes is skipped if closes behind it are closes of the whole. -/
theorem ClosesFirst.append {lead : Text} (hlead : NeverCloses closes lead)
    (hstep : ∀ front, front <+: text → (closes (lead ++ front) ↔ closes front))
    (hfirst : ClosesFirst closes text) : ClosesFirst closes (lead ++ text) := by
  refine ⟨(hstep text List.prefix_rfl).mpr hfirst.1, fun front hfront hcloses => ?_⟩
  rcases prefix_append_cases hfront with hshort | ⟨inner, hinner, rfl⟩
  · exact absurd hcloses (hlead front hshort)
  · rw [hfirst.2 inner hinner ((hstep inner hinner).mp hcloses)]

/-- A lead that closes nothing may stand in front. -/
theorem NeverCloses.append {lead : Text} (hlead : NeverCloses closes lead)
    (hstep : ∀ front, front <+: text → (closes (lead ++ front) ↔ closes front))
    (hnever : NeverCloses closes text) : NeverCloses closes (lead ++ text) := by
  intro front hfront hcloses
  rcases prefix_append_cases hfront with hshort | ⟨inner, hinner, rfl⟩
  · exact hlead front hshort hcloses
  · exact hnever inner hinner ((hstep inner hinner).mp hcloses)

/-! ### Quotes -/

/-- The number of backslashes at the end of a text. -/
def backslashes (text : Text) : Nat := (text.reverse.takeWhile (· = '\\')).length

/-- The text ends with the quote, in front of which stands an even number of backslashes. -/
def ClosesQuote (quote : Char) (text : Text) : Prop :=
  ∃ content, text = content ++ [quote] ∧ backslashes content % 2 = 0

/-- Other characters in front do not count. -/
theorem backslashes_cons (hc : c ≠ '\\') (text : Text) :
    backslashes (c :: text) = backslashes text := by
  rw [backslashes, backslashes, List.reverse_cons, List.takeWhile_append,
    List.takeWhile_cons_of_neg (by simpa using hc)]
  split
  · rename_i hall
    rw [List.append_nil, ← hall]
  · rfl

/-- A backslash and the character behind it change the number by two, or not at all. -/
theorem backslashes_escape (c : Char) (text : Text) :
    backslashes ('\\' :: c :: text) % 2 = backslashes text % 2 := by
  have hescape : ([c, '\\'].takeWhile (· = '\\')).length % 2 = 0 := by
    by_cases hc : c = '\\' <;> simp [hc]
  rw [backslashes, backslashes, List.reverse_cons, List.reverse_cons, List.append_assoc,
    List.takeWhile_append]
  split
  · rename_i hall
    rw [List.length_append, hall]
    simp only [List.singleton_append]
    omega
  · rfl

/-- The empty text closes no quote. -/
theorem not_closesQuote_nil (quote : Char) : ¬ClosesQuote quote [] := by
  rintro ⟨content, heq, -⟩
  simp at heq

/-- An escaped character closes nothing, and what follows it closes as if it stood alone. -/
theorem closesQuote_escape (c : Char) (text : Text) :
    ClosesQuote quote ('\\' :: c :: text) ↔ ClosesQuote quote text := by
  constructor
  · rintro ⟨content, heq, heven⟩
    match content with
    | [] => simp at heq
    | [d] =>
      obtain ⟨rfl, -⟩ := List.cons.inj heq
      exact absurd heven (by decide)
    | d :: e :: content =>
      obtain ⟨rfl, rfl, rfl⟩ : '\\' = d ∧ c = e ∧ text = content ++ [quote] := by simpa using heq
      rw [backslashes_escape] at heven
      exact ⟨content, rfl, heven⟩
  · rintro ⟨content, rfl, heven⟩
    exact ⟨'\\' :: c :: content, rfl, by rw [backslashes_escape, heven]⟩

/-- Another character closes if it is the quote. -/
theorem closesQuote_cons (hc : c ≠ '\\') (text : Text) :
    ClosesQuote quote (c :: text) ↔ (c = quote ∧ text = []) ∨ ClosesQuote quote text := by
  constructor
  · rintro ⟨content, heq, heven⟩
    cases content with
    | nil => exact Or.inl (List.cons.inj heq)
    | cons d content =>
      obtain ⟨rfl, rfl⟩ := List.cons.inj heq
      rw [backslashes_cons hc] at heven
      exact Or.inr ⟨content, rfl, heven⟩
  · rintro (⟨rfl, rfl⟩ | ⟨content, rfl, heven⟩)
    · exact ⟨[], rfl, rfl⟩
    · exact ⟨c :: content, rfl, by rw [backslashes_cons hc, heven]⟩

/-- Neither a backslash nor the character behind it closes. -/
theorem neverCloses_escape (hquote : quote ≠ '\\') (c : Char) :
    NeverCloses (ClosesQuote quote) ['\\', c] := by
  intro front hfront
  rcases List.prefix_cons_iff.mp hfront with rfl | ⟨inner, rfl, hinner⟩
  · exact not_closesQuote_nil quote
  rcases List.prefix_cons_iff.mp hinner with rfl | ⟨behind, rfl, hbehind⟩
  · rintro ⟨content, heq, -⟩
    obtain ⟨-, hlast⟩ := List.append_inj' (show [] ++ _ = content ++ [quote] from heq) rfl
    exact hquote (List.singleton_inj.mp hlast).symm
  · rw [List.prefix_nil.mp hbehind, closesQuote_escape]
    exact not_closesQuote_nil quote

/-- A character that is no quote does not close. -/
theorem neverCloses_plain (hc : c ≠ quote) : NeverCloses (ClosesQuote quote) [c] := by
  intro front hfront
  rcases List.prefix_cons_iff.mp hfront with rfl | ⟨inner, rfl, hinner⟩
  · exact not_closesQuote_nil quote
  · rintro ⟨content, heq, -⟩
    rw [List.prefix_nil.mp hinner] at heq
    obtain ⟨-, hlast⟩ := List.append_inj' (show [] ++ _ = content ++ [quote] from heq) rfl
    exact hc (List.singleton_inj.mp hlast)

/-- A quoted string ends with the first quote that closes it, or with its line. -/
theorem quotedLength_closes (hquote : quote ≠ '\\') (text : Text) :
    ClosesFirst (ClosesQuote quote) (text.take (quotedLength quote text)) ∨
      NeverCloses (ClosesQuote quote) text ∧ quotedLength quote text = text.length := by
  fun_induction quotedLength quote text with
  | case1 =>
    refine Or.inr ⟨fun front hfront => ?_, rfl⟩
    rw [List.prefix_nil.mp hfront]
    exact not_closesQuote_nil quote
  | case2 escaped rest ih =>
    have hlead := neverCloses_escape hquote escaped
    have hstep (front : Text) : ClosesQuote quote (['\\', escaped] ++ front) ↔
        ClosesQuote quote front := closesQuote_escape escaped front
    exact ih.imp (fun hfirst => hfirst.append hlead fun front _ => hstep front)
      fun hnever => ⟨hlead.append (fun front _ => hstep front) hnever.1,
        congrArg (· + 2) hnever.2⟩
  | case3 rest hplain =>
    refine Or.inl ⟨⟨[], rfl, rfl⟩, fun front hfront hcloses => ?_⟩
    rcases List.prefix_cons_iff.mp hfront with rfl | ⟨inner, rfl, hinner⟩
    · exact absurd hcloses (not_closesQuote_nil quote)
    · rw [List.take_zero, List.prefix_nil] at hinner
      rw [hinner]
      rfl
  | case4 c rest hplain hother ih =>
    have hlead := neverCloses_plain hother
    by_cases hescape : c = '\\'
    · -- A backslash at the end of a line escapes nothing.
      have hrest : rest = [] := by
        cases rest with
        | nil => rfl
        | cons d behind => exact (hplain d behind hescape rfl).elim
      subst hrest
      exact Or.inr ⟨hlead, rfl⟩
    · have hstep (front : Text) : ClosesQuote quote ([c] ++ front) ↔ ClosesQuote quote front := by
        rw [List.singleton_append, closesQuote_cons hescape]
        exact or_iff_right fun hhere => hother hhere.1
      exact ih.imp (fun hfirst => hfirst.append hlead fun front _ => hstep front)
        fun hnever => ⟨hlead.append (fun front _ => hstep front) hnever.1,
          congrArg (· + 1) hnever.2⟩

/-! ### Long brackets -/

/-- The text ends with a closing long bracket of the level. -/
def ClosesLong (level : Nat) (text : Text) : Prop :=
  ∃ content, text = content ++ ']' :: (List.replicate level '=' ++ [']'])

/-- A closing long bracket is at least two characters long. -/
theorem ClosesLong.le_length (hcloses : ClosesLong level text) : level + 2 ≤ text.length := by
  obtain ⟨content, rfl⟩ := hcloses
  simp

/-- A text in front of which no long bracket closes is closed where its rest is. -/
theorem closesLong_cons (hopen : longCloses level (c :: text) = false) {front : Text}
    (hfront : front <+: text) : ClosesLong level (c :: front) ↔ ClosesLong level front := by
  constructor
  · rintro ⟨content, heq⟩
    cases content with
    | nil =>
      obtain ⟨behind, rfl⟩ := hfront
      have hcloses : longCloses level (c :: (front ++ behind)) = true :=
        longCloses_iff.mpr ⟨behind, by rw [← List.cons_append, heq]; simp⟩
      rw [hopen] at hcloses
      cases hcloses
    | cons d content =>
      exact ⟨content, (List.cons.inj heq).2⟩
  · rintro ⟨content, rfl⟩
    exact ⟨c :: content, rfl⟩

/-- A text that is shorter than a closing long bracket does not close. -/
theorem neverCloses_short (hshort : text.length < level + 2) :
    NeverCloses (ClosesLong level) text := fun _ hfront hcloses => by
  have hlength := hcloses.le_length
  have hle := hfront.length_le
  omega

/-- A long bracket ends with the first closing bracket of its level, if there is one. -/
theorem longClose?_closes (level : Nat) (text : Text) :
    match longClose? level text with
    | some length => ClosesFirst (ClosesLong level) (text.take length)
    | none => NeverCloses (ClosesLong level) text := by
  induction text with
  | nil => exact neverCloses_short (Nat.succ_pos _)
  | cons c text ih =>
    rw [longClose?]
    by_cases hhere : longCloses level (c :: text) = true
    · obtain ⟨body, hbody⟩ := longCloses_iff.mp hhere
      have htake : (c :: text).take (level + 2) = ']' :: (List.replicate level '=' ++ [']']) := by
        rw [hbody, List.take_succ_cons, List.take_append]
        simp
      rw [if_pos hhere]
      dsimp only
      rw [htake]
      refine ⟨⟨[], rfl⟩, fun front hfront hcloses => hfront.eq_of_length ?_⟩
      have hlength := hcloses.le_length
      have hle := hfront.length_le
      simp only [List.length_cons, List.length_append, List.length_replicate, List.length_nil] at *
      omega
    · rw [if_neg hhere]
      rw [Bool.not_eq_true] at hhere
      have hlead : NeverCloses (ClosesLong level) [c] :=
        neverCloses_short (by rw [List.length_singleton]; omega)
      cases hclose : longClose? level text with
      | none =>
        rw [hclose] at ih
        exact hlead.append (fun front hfront => closesLong_cons hhere hfront) ih
      | some length =>
        rw [hclose] at ih
        exact ih.append hlead fun front hfront =>
          closesLong_cons hhere (hfront.trans (List.take_prefix _ _))

/-- A bracket that closes first is found, whatever follows. -/
theorem longClose?_of_closesFirst (hfirst : ClosesFirst (ClosesLong level) text) (rest : Text) :
    longClose? level (text ++ rest) = some text.length := by
  have hcloses := longClose?_closes level (text ++ rest)
  have htext : text <+: text ++ rest := List.prefix_append _ _
  cases hclose : longClose? level (text ++ rest) with
  | none =>
    rw [hclose] at hcloses
    exact absurd hfirst.1 (hcloses text htext)
  | some length =>
    rw [hclose] at hcloses
    have hle := longClose?_le hclose
    have hfound := List.take_prefix length (text ++ rest)
    -- Of two closes that both come first neither is longer.
    have hsame : (text ++ rest).take length = text := by
      rcases List.prefix_or_prefix_of_prefix hfound htext with hshort | hlong
      · exact hfirst.2 _ hshort hcloses.1
      · exact (hcloses.2 _ hlong hfirst.1).symm
    rw [← hsame, List.length_take, Nat.min_eq_left hle]

/-- Where nothing closes nothing is found. -/
theorem longClose?_of_neverCloses (hnever : NeverCloses (ClosesLong level) text) :
    longClose? level text = none := by
  have hcloses := longClose?_closes level text
  cases hclose : longClose? level text with
  | none => rfl
  | some length =>
    rw [hclose] at hcloses
    exact absurd hcloses.1 (hnever _ (List.take_prefix _ _))

/-! ## Tokens -/

/-- The sign that opens a long bracket of a level. -/
def longOpening (level : Nat) : Text := '[' :: (List.replicate level '=' ++ ['['])

/-- A token that begins with an opening sign ends with the first close behind the sign. Without a
close it ends with the line, and `left` is open behind the line. -/
def EndsWithClose (opening : Text) (closes : Text → Prop) (left : LineState) (token : Token)
    (rest : Text) (state : LineState) : Prop :=
  ∃ inner, token.text = opening ++ inner ∧
    (ClosesFirst closes inner ∨ NeverCloses closes inner ∧ rest = [] ∧ state = left)

/-- What the grammar says of a token with the given rest of the line behind it, and of the state
behind the line. -/
structure Prescribed (token : Token) (rest : Text) (state : LineState) : Prop where
  quoted : ∀ quote, quote = '"' ∨ quote = '\'' → [quote] <+: token.text ++ rest →
    token.kind = .string ∧ EndsWithClose [quote] (ClosesQuote quote) .code token rest state
  longString : ∀ level, longOpening level <+: token.text ++ rest →
    token.kind = .string ∧
      EndsWithClose (longOpening level) (ClosesLong level) (.longString level) token rest state
  longComment : ∀ level, ['-', '-'] ++ longOpening level <+: token.text ++ rest →
    token.kind = .blockComment ∧
      EndsWithClose (['-', '-'] ++ longOpening level) (ClosesLong level) (.longComment level) token
        rest state
  lineComment : ['-', '-'] <+: token.text ++ rest →
    (∀ level, ¬['-', '-'] ++ longOpening level <+: token.text ++ rest) →
    token.kind = .comment ∧ rest = []
  name : (token.text ++ rest).head?.any isNameStart →
    (∀ c ∈ token.text, isNamePart c) ∧ (∀ c ∈ rest.head?, isNamePart c = false) ∧
      (token.kind = .keyword ↔ Words.isReserved token.text)
  operator : token.kind = .operator → token.text ∈ operators ∧
    ∀ op ∈ operators, op <+: token.text ++ rest → op.length ≤ token.text.length

/-- The end of a line is what the grammar says of an empty text. -/
theorem prescribed_lineEnd (state : LineState) : Prescribed ⟨.lineEnd, []⟩ [] state where
  quoted quote _ hopening := by simp at hopening
  longString level hopening := by simp [longOpening] at hopening
  longComment level hopening := by simp at hopening
  lineComment hopening := by simp at hopening
  name hstart := by simp at hstart
  operator hkind := by cases hkind

variable {memory : Memory} {state : LineState} {reading : Reading} {opening : Text}

/-- The token that a reading takes from a text. -/
def Reading.token (reading : Reading) (c : Char) (rest : Text) : Token :=
  ⟨reading.kind, c :: rest.take reading.more⟩

/-- A long token ends as its form says. -/
theorem readLong_endsWithClose {form : LongForm} {skip : Nat}
    (hopening : opening = c :: rest.take skip) (hreading : reading = readLong form level skip rest)
    (hstate : rest.drop reading.more = [] → state = reading.state) :
    reading.kind = form.kind ∧ EndsWithClose opening (ClosesLong level) (form.state level)
      (reading.token c rest) (rest.drop reading.more) state := by
  have hcloses := longClose?_closes level (rest.drop skip)
  rw [readLong] at hreading
  cases hclose : longClose? level (rest.drop skip) with
  | some length =>
    rw [hclose] at hcloses hreading
    subst hreading
    refine ⟨rfl, (rest.drop skip).take length, ?_, Or.inl hcloses⟩
    rw [hopening, List.cons_append, ← List.take_add]
    rfl
  | none =>
    rw [hclose] at hcloses hreading
    subst hreading
    refine ⟨rfl, rest.drop skip, ?_, Or.inr ⟨hcloses, List.drop_length, hstate List.drop_length⟩⟩
    rw [hopening, List.cons_append, List.take_append_drop, Reading.token, List.take_length]

/-- A quoted string ends with its closing quote. -/
theorem read_quote (hquote : c = '"' ∨ c = '\'') (memory : Memory)
    (hstate : rest.drop (read memory c rest).more = [] → state = (read memory c rest).state) :
    (read memory c rest).kind = .string ∧ EndsWithClose [c] (ClosesQuote c) .code
      ((read memory c rest).token c rest) (rest.drop (read memory c rest).more) state := by
  have hread : read memory c rest = .closed .string (quotedLength c rest) := by
    rcases hquote with rfl | rfl <;> rfl
  have hescape : c ≠ '\\' := by rcases hquote with rfl | rfl <;> decide
  rw [hread] at hstate ⊢
  refine ⟨rfl, rest.take (quotedLength c rest), rfl, ?_⟩
  rcases quotedLength_closes hescape rest with hfirst | ⟨hnever, hlength⟩
  · exact Or.inl hfirst
  · have hend : rest.drop (quotedLength c rest) = [] := by rw [hlength, List.drop_length]
    rw [hlength, List.take_length]
    exact Or.inr ⟨hnever, hlength ▸ hend, hstate hend⟩

/-- A long bracket begins a long string. -/
theorem read_longOpening (hopening : longOpening level <+: c :: rest) (memory : Memory) :
    longOpening level = c :: rest.take (level + 1) ∧
      read memory c rest = readLong .string level (level + 1) rest := by
  obtain ⟨rfl, body, rfl⟩ := List.cons_prefix_cons.mp hopening
  refine ⟨by rw [longOpening, List.take_left' (by simp)], read_of_longOpen? memory ?_⟩
  exact longOpen?_eq_some.mpr ⟨body, by simp⟩

/-- Two dashes and a long bracket begin a long comment. -/
theorem read_commentOpening (hopening : ['-', '-'] ++ longOpening level <+: c :: rest)
    (memory : Memory) :
    ['-', '-'] ++ longOpening level = c :: rest.take (level + 3) ∧
      read memory c rest = readLong .comment level (level + 3) rest := by
  obtain ⟨rfl, body, rfl⟩ := List.cons_prefix_cons.mp hopening
  refine ⟨by rw [List.take_left' (by simp [longOpening])]; rfl, ?_⟩
  have hopen : longOpen? (List.replicate level '=' ++ ['['] ++ body) = some level :=
    longOpen?_eq_some.mpr ⟨body, by simp⟩
  exact (read_of_dashes memory rfl).trans (readComment_of_longOpen? hopen)

/-- Two dashes without a long bracket begin a comment up to the end of the line. -/
theorem read_lineComment (hdashes : ['-', '-'] <+: c :: rest)
    (hshort : ∀ level, ¬['-', '-'] ++ longOpening level <+: c :: rest) (memory : Memory) :
    read memory c rest = .closed .comment rest.length := by
  obtain ⟨rfl, tail, rfl⟩ := List.cons_prefix_cons.mp hdashes
  refine (read_of_dashes memory rfl).trans (readComment_line fun body hbody => ?_)
  cases hopen : longOpen? body with
  | none => rfl
  | some level =>
    obtain ⟨inner, rfl⟩ := longOpen?_eq_some.mp hopen
    obtain rfl : tail = '[' :: (List.replicate level '=' ++ '[' :: inner) := hbody
    exact absurd ⟨inner, by simp [longOpening]⟩ (hshort level)

/-- No operator of the table stands behind one that it goes on with. -/
theorem pairwise_operators : operators.Pairwise fun op later => later.length ≤ op.length := by
  decide

/-- An operator is the longest one of the table with which the text begins. -/
theorem operatorAt?_longest {op other : Text} (hop : operatorAt? text = some op)
    (hother : other ∈ operators) (hbegins : other <+: text) : other.length ≤ op.length := by
  obtain ⟨-, front, behind, htable, hfront⟩ := List.find?_eq_some_iff_append.mp hop
  have hordered := pairwise_operators
  rw [htable] at hother hordered
  rcases List.mem_append.mp hother with hearlier | hlater
  · have hno := hfront other hearlier
    rw [List.isPrefixOf_iff_prefix.mpr hbegins] at hno
    cases hno
  · rcases List.mem_cons.mp hlater with rfl | hlater
    · exact Nat.le_refl _
    · exact (List.pairwise_cons.mp (List.pairwise_append.mp hordered).2.1).1 other hlater

/-- A token of the category of operators is the longest operator. -/
theorem read_operator (memory : Memory) (hkind : (read memory c rest).kind = .operator) :
    operatorAt? (c :: rest) = some ((read memory c rest).token c rest).text := by
  have hform := read_formed memory c rest
  generalize read memory c rest = reading at hform hkind
  cases hform with
  | enclosed hmem =>
    rw [hkind] at hmem
    exact absurd hmem (by decide)
  | name =>
    have hmem := nameKind_mem memory (c :: rest.takeWhile isNamePart)
    rw [show memory.nameKind _ = .operator from hkind] at hmem
    exact absurd hmem (by decide)
  | @operator op hop =>
    have hfront := List.find?_some (show operators.find? _ = some op from hop)
    have hbegins := List.isPrefixOf_iff_prefix.mp hfront
    have hne : op ≠ [] := by
      rintro rfl
      exact absurd (List.mem_of_find?_eq_some hop) (by decide)
    obtain ⟨first, tail, rfl⟩ := List.exists_cons_of_ne_nil hne
    obtain ⟨rfl, htail⟩ := List.cons_prefix_cons.mp hbegins
    rw [hop]
    exact congrArg (some ∘ (first :: ·)) (List.prefix_iff_eq_take.mp htail)
  | _ => cases hkind

/-- A name takes all characters that may belong to it, and is a keyword if it is reserved. -/
theorem read_wholeName (hstart : isNameStart c = true) (memory : Memory) :
    (∀ d ∈ ((read memory c rest).token c rest).text, isNamePart d) ∧
      (∀ d ∈ (rest.drop (read memory c rest).more).head?, isNamePart d = false) ∧
      ((read memory c rest).kind = .keyword ↔
        Words.isReserved ((read memory c rest).token c rest).text) := by
  have hkeyword := kind_eq_keyword_iff memory c rest
  have hmore : (read memory c rest).more = (rest.takeWhile isNamePart).length := by
    rw [read_of_isNameStart memory hstart]
    rfl
  have hfirst : isNamePart c = true := by
    rw [isNameStart, Bool.or_eq_true] at hstart
    rw [isNamePart, Char.isAlphanum, Bool.or_eq_true, Bool.or_eq_true]
    exact hstart.imp_left Or.inl
  rw [hmore, drop_length_takeWhile]
  refine ⟨?_, fun d hd => ?_, ?_⟩
  · rw [Reading.token, hmore, ← List.prefix_iff_eq_take.mp (List.takeWhile_prefix isNamePart)]
    exact List.forall_mem_cons.mpr ⟨hfirst, fun d hd => List.mem_takeWhile_imp hd⟩
  · have hstop := List.head?_dropWhile_not isNamePart rest
    rw [Option.mem_def.mp hd] at hstop
    simpa using hstop
  · rw [hkeyword, and_iff_right hstart]
    rfl

/-- Every token is what the grammar says. -/
theorem read_prescribed (memory : Memory) (c : Char) (rest : Text)
    (hstate : rest.drop (read memory c rest).more = [] → state = (read memory c rest).state) :
    Prescribed ((read memory c rest).token c rest) (rest.drop (read memory c rest).more) state := by
  have hwhole : ((read memory c rest).token c rest).text ++ rest.drop (read memory c rest).more =
      c :: rest := by
    rw [Reading.token, List.cons_append, List.take_append_drop]
  constructor
  · intro quote hquote hopening
    rw [hwhole] at hopening
    obtain ⟨rfl, -⟩ := List.cons_prefix_cons.mp hopening
    exact read_quote hquote memory hstate
  · intro level hopening
    rw [hwhole] at hopening
    obtain ⟨hsign, hread⟩ := read_longOpening hopening memory
    exact readLong_endsWithClose hsign hread hstate
  · intro level hopening
    rw [hwhole] at hopening
    obtain ⟨hsign, hread⟩ := read_commentOpening hopening memory
    exact readLong_endsWithClose hsign hread hstate
  · intro hdashes hshort
    rw [hwhole] at hdashes hshort
    rw [read_lineComment hdashes hshort memory]
    exact ⟨rfl, List.drop_length⟩
  · intro hstart
    rw [hwhole] at hstart
    exact read_wholeName hstart memory
  · intro hkind
    have hop := read_operator memory hkind
    rw [hwhole]
    exact ⟨List.mem_of_find?_eq_some hop, fun op hmem hbegins =>
      operatorAt?_longest hop hmem hbegins⟩

/-- The tokens of a rest of a line are what the grammar says. -/
theorem tokensFrom_prescribed (memory : Memory) (start : LineState) (text : Text) (token : Token)
    (behind : List Token) : ∀ before,
      (tokensFrom memory start text).tokens = before ++ token :: behind →
        Prescribed token (behind.map Token.text).flatten (tokensFrom memory start text).state := by
  fun_induction tokensFrom memory start text with
  | case1 memory start =>
    intro before htokens
    rcases List.append_eq_singleton_iff.mp htokens.symm with ⟨-, hlast⟩ | ⟨-, hnone⟩
    · obtain ⟨rfl, rfl⟩ := List.cons.inj hlast
      exact prescribed_lineEnd start
    · cases hnone
  | case2 memory start c rest reading first scan ih =>
    intro before htokens
    cases before with
    | nil =>
      obtain ⟨rfl, rfl⟩ := List.cons.inj htokens
      rw [flatten_tokensFrom]
      refine read_prescribed memory c rest fun hend => ?_
      change (tokensFrom _ reading.state (rest.drop reading.more)).state = _
      rw [show rest.drop reading.more = [] from hend, tokensFrom]
    | cons _ before => exact ih before (List.cons.inj htokens).2

/-- Each token of a line of code is what the grammar says of the text that stands where the token
begins. -/
theorem scan_prescribed (line : Text) {before behind : List Token} {token : Token}
    (htokens : (scan line .code).tokens = before ++ token :: behind) :
    line = (before.map Token.text).flatten ++ (token.text ++ (behind.map Token.text).flatten) ∧
      Prescribed token (behind.map Token.text).flatten (scan line .code).state := by
  refine ⟨?_, tokensFrom_prescribed .start .code line token behind before htokens⟩
  have hline := flatten_scan line .code
  rw [htokens] at hline
  simpa using hline.symm

/-- A comment that stays open, behind a string with an escaped quote: what stands in front of the
comment is scanned first, and no closing bracket of another level ends it. -/
theorem scan_prescribed_open :
    let line := "s = 'it\\'s' --[=[ a ]] b".toList
    let comment : Token := ⟨.blockComment, "--[=[ a ]] b".toList⟩
    (scan line .code).tokens =
        (scan line .code).tokens.take 6 ++ comment :: [⟨.lineEnd, []⟩] ∧
      (scan line .code).state = .longComment 1 ∧
      line = "s = 'it\\'s' ".toList ++ (comment.text ++ []) ∧
      Prescribed comment [] (scan line .code).state := by
  intro line comment
  have htokens : (scan line .code).tokens =
      (scan line .code).tokens.take 6 ++ comment :: [⟨.lineEnd, []⟩] := by decide +kernel
  have hstate : (scan line .code).state = .longComment 1 := by decide +kernel
  exact ⟨htokens, hstate, rfl, (scan_prescribed line htokens).2⟩

end LuaAssist.Lexer

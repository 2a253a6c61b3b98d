import LuaAssist.Proofs.Comment.Ignored
import LuaAssist.Proofs.Scope.Written
import LuaAssist.Proofs.Token.Bytes

/-!
# References as they are written

A reference is written as the word `require`, perhaps an opening parenthesis, and a name in quotes.
On a line of such references, with texts between them in which nothing else begins, just these
references are found.
-/

namespace LuaAssist

/-! ## Code around quotes -/

namespace Lexer

open Require (isQuote)

variable {c : Char} {rest : Text}

/-- A quote is none of the characters that go on in a name, a numeral, an operator or blanks. -/
theorem isQuote_of_test {test : Char → Bool} (hdouble : test '"' = false)
    (hsingle : test '\'' = false) (hc : test c = true) : isQuote c = false := by
  rw [Bool.eq_false_iff]
  intro hquote
  simp only [isQuote, Bool.or_eq_true, decide_eq_true_eq] at hquote
  rcases hquote with rfl | rfl
  · rw [hdouble] at hc
    cases hc
  · rw [hsingle] at hc
    cases hc

/-- A numeral has no quotes in it. -/
theorem isQuote_of_mem_numeral {hex : Bool} {text : Text}
    (hmem : c ∈ text.take (numeralLength hex text)) : isQuote c = false := by
  rcases numeral_characters hex text c hmem with hc | hc | hc
  · cases hex <;> exact isQuote_of_test (by decide) (by decide) hc
  · cases hex <;> exact isQuote_of_test (by decide) (by decide) hc
  · exact isQuote_of_test (by decide) (by decide) hc

/-- An operator has no quotes in it. -/
theorem isQuote_of_mem_operator {op : Text} (hop : operatorAt? (c :: rest) = some op) :
    ∀ d ∈ rest.take (op.length - 1), isQuote d = false := by
  have hnone : ∀ op ∈ operators, ∀ d ∈ op, isQuote d = false := by decide +kernel
  rw [operatorAt?] at hop
  have hfront := List.find?_some hop
  have hop := hnone op (List.mem_of_find?_eq_some hop)
  intro d hd
  cases op with
  | nil => cases hd
  | cons first tail =>
    obtain ⟨-, hpre⟩ := List.cons_prefix_cons.mp (List.isPrefixOf_iff_prefix.mp hfront)
    rw [List.length_cons, Nat.add_sub_cancel, ← List.prefix_iff_eq_take.mp hpre] at hd
    exact hop d (List.mem_cons_of_mem first hd)

/-- Only strings, long brackets and comments can have quotes in them. -/
theorem isQuote_of_mem_token (hquote : isQuote c = false) (hbracket : c ≠ '[')
    (hcomment : ¬(c = '-' ∧ rest.head? = some '-')) :
    ∀ d ∈ rest.take (moreOf c rest), isQuote d = false := by
  have hrun : ∀ {test : Char → Bool}, test '"' = false → test '\'' = false →
      ∀ d ∈ rest.take (rest.takeWhile test).length, isQuote d = false := by
    intro test hdouble hsingle d hd
    rw [← List.prefix_iff_eq_take.mp (List.takeWhile_prefix test)] at hd
    exact isQuote_of_test hdouble hsingle (List.mem_takeWhile_imp hd)
  unfold moreOf read
  rw [if_neg hbracket]
  split
  · exact hrun (by decide) (by decide)
  split
  · rename_i hdashes
    exact absurd (by simpa using hdashes) hcomment
  split
  · rename_i hlevel
    cases hlevel
  split
  · rename_i hopens
    exact absurd hopens (by simpa [isQuote] using hquote)
  split
  · split
    · rename_i hmark
      simp only [Bool.and_eq_true] at hmark
      cases rest with
      | nil => cases hmark.2
      | cons mark rest =>
        refine List.forall_mem_cons.mpr ⟨?_, ?_⟩
        · have htest : isHexMark mark = true := hmark.2
          exact isQuote_of_test (by decide) (by decide) htest
        · exact fun d hd => isQuote_of_mem_numeral hd
    · exact fun d hd => isQuote_of_mem_numeral hd
  split
  · exact hrun (by decide) (by decide)
  split
  · rename_i hop
    exact isQuote_of_mem_operator hop
  · exact List.forall_mem_nil _

end Lexer

namespace Signature

open Lexer (moreOf)
open Require (isQuote)

/-- Text in which neither a string nor a long bracket nor a comment begins is code, and so is
what follows it up to its own first comment, if that begins with a quote. -/
theorem codeOf_append_quote (behind : Text) {text : Text} (hquote : ∀ c ∈ text, isQuote c = false)
    (hbracket : '[' ∉ text) (hdashes : ¬ "--".toList <:+: text)
    (hbehind : ∀ c ∈ behind.head?, isQuote c = true) :
    codeOf (text ++ behind) = text ++ codeOf behind := by
  induction hlength : text.length using Nat.strongRecOn generalizing text with
  | ind length ih =>
    subst hlength
    cases text with
    | nil => rfl
    | cons c rest =>
      have hcomment : ¬(c = '-' ∧ (rest ++ behind).head? = some '-') := by
        rintro ⟨rfl, hhead⟩
        cases rest with
        | nil => exact absurd (hbehind '-' hhead) (by decide)
        | cons d rest =>
          obtain rfl : d = '-' := by simpa using hhead
          exact hdashes (List.prefix_append "--".toList rest).isInfix
      rw [List.forall_mem_cons] at hquote
      rw [List.mem_cons, not_or] at hbracket
      have hinside := Lexer.isQuote_of_mem_token hquote.1 (Ne.symm hbracket.1) hcomment
      have hmore : moreOf c (rest ++ behind) ≤ rest.length := by
        by_contra hlong
        obtain ⟨extra, hextra⟩ := Nat.exists_eq_add_of_lt (Nat.lt_of_not_le hlong)
        cases behind with
        | nil =>
          have hle := Lexer.read_more_le .start c (rest ++ [])
          rw [← moreOf, List.append_nil] at hle
          rw [List.append_nil] at hlong
          exact hlong hle
        | cons quote behind =>
          rw [hextra, Nat.add_assoc, List.take_length_add_append, List.take_succ_cons] at hinside
          have hother := hinside quote (by simp)
          rw [hbehind quote rfl] at hother
          cases hother
      rw [List.cons_append, codeOf_cons hcomment, List.take_append_of_le_length hmore,
        List.drop_append_of_le_length hmore, ih (rest.drop (moreOf c (rest ++ behind))).length ?_
          (fun d hd => hquote.2 d (List.mem_of_mem_drop hd))
          (fun hmem => hbracket.2 (List.mem_of_mem_drop hmem))
          (fun hwithin => hdashes (hwithin.trans
            ((List.drop_suffix _ _).isInfix.trans (List.suffix_cons c rest).isInfix))) rfl]
      · rw [List.cons_append, ← List.append_assoc, List.take_append_drop, List.cons_append]
      · simp only [List.length_drop, List.length_cons]
        omega

/-- A string without backslashes is code. -/
theorem codeOf_string {quote : Char} {name : Text} (hquote : isQuote quote = true)
    (hname : quote ∉ name) (hplain : '\\' ∉ name) (rest : Text) :
    codeOf (quote :: (name ++ quote :: rest)) = quote :: (name ++ quote :: codeOf rest) := by
  have hinside : Program.staysInside quote name = true := by
    fun_induction Program.staysInside quote name with
    | case1 => rfl
    | case2 => simp at hplain
    | case3 => simp at hplain
    | case4 c rest hescape ih =>
      rw [List.mem_cons, not_or] at hname hplain
      simp [Ne.symm hname.1, ih hname.2 hplain.2]
  have hopens : quote = '"' ∨ quote = '\'' := by simpa [isQuote] using hquote
  have hmore : moreOf quote (name ++ quote :: rest) = (name ++ [quote]).length := by
    have hread := Lexer.read_quoted hopens hinside rest
    rw [List.append_assoc, List.singleton_append] at hread
    rw [moreOf, hread]
    rfl
  have hcomment : ¬(quote = '-' ∧ (name ++ quote :: rest).head? = some '-') := by
    rintro ⟨rfl, -⟩
    exact absurd hquote (by decide)
  have hsplit : name ++ quote :: rest = (name ++ [quote]) ++ rest := by simp
  rw [codeOf_cons hcomment, hmore, hsplit, List.take_left, List.drop_left]
  simp

end Signature

namespace Require

/-! ## References on a line -/

/-- Text in which no string, long bracket, comment or reference begins. -/
structure IsPlain (text : Text) : Prop where
  unquoted : ∀ c ∈ text, isQuote c = false
  bracketless : '[' ∉ text
  dashless : ¬ "--".toList <:+: text
  wordless : ¬ word <:+: text

instance (text : Text) : Decidable (IsPlain text) :=
  decidable_of_iff ((∀ c ∈ text, isQuote c = false) ∧ '[' ∉ text ∧ ¬ "--".toList <:+: text ∧
      ¬ word <:+: text)
    ⟨fun ⟨hquote, hbracket, hdash, hword⟩ => ⟨hquote, hbracket, hdash, hword⟩,
      fun ⟨hquote, hbracket, hdash, hword⟩ => ⟨hquote, hbracket, hdash, hword⟩⟩

/-- A reference as it is written, with the text in front of it. -/
structure WrittenCall where
  front : Text
  /-- What stands between the word and the literal. -/
  between : Text
  quote : Char
  name : Text
  isPlain_front : IsPlain front
  /-- No word goes on into the word of the reference. -/
  front_ends : ∀ c ∈ front.getLast?, Text.isWordPart c = false
  isGap_between : IsGap between
  isQuote_quote : isQuote quote = true
  name_ne_nil : name ≠ []
  quote_not_mem : quote ∉ name
  backslash_not_mem : '\\' ∉ name

namespace WrittenCall

/-- What stands in front of the name. -/
def opening (call : WrittenCall) : Text := call.front ++ word ++ call.between ++ [call.quote]

/-- The reference with the text in front of it. -/
def text (call : WrittenCall) : Text := call.opening ++ (call.name ++ [call.quote])

end WrittenCall

/-- A line of references, with text behind the last of them. -/
def written (calls : List WrittenCall) (tail : Text) : Text :=
  calls.flatMap WrittenCall.text ++ tail

/-- The references on a numbered line, of which the first begins behind `column` bytes. -/
def writtenFrom (number column : Nat) : List WrittenCall → List Reference
  | [] => []
  | call :: calls => ⟨call.name, number, column + Text.utf8Length call.opening⟩ ::
      writtenFrom number (column + Text.utf8Length call.text) calls

/-- Blanks and a parenthesis are all that a gap can have. -/
theorem IsGap.plain {between : Text} (hgap : IsGap between) :
    ∀ c ∈ between, isQuote c = false ∧ c ≠ '[' ∧ c ≠ '-' := by
  have hblank : ∀ c, Text.isBlank c = true → isQuote c = false ∧ c ≠ '[' ∧ c ≠ '-' := by
    intro c hc
    refine ⟨?_, ?_, ?_⟩
    · rw [Bool.eq_false_iff]
      intro hquote
      rw [isBlank_of_isQuote hquote] at hc
      cases hc
    · rintro rfl
      exact absurd hc (by decide)
    · rintro rfl
      exact absurd hc (by decide)
  obtain ⟨front, behind, hblanks, rfl | rfl⟩ := hgap
  · exact fun c hc => hblank c (hblanks c hc)
  · rw [List.forall_mem_append] at hblanks
    refine List.forall_mem_append.mpr ⟨fun c hc => hblank c (hblanks.1 c hc), ?_⟩
    exact List.forall_mem_cons.mpr ⟨by decide, fun c hc => hblank c (hblanks.2 c hc)⟩

/-- The code goes on behind a reference. -/
theorem WrittenCall.codeOf_text (call : WrittenCall) (rest : Text) :
    Signature.codeOf (call.text ++ rest) = call.text ++ Signature.codeOf rest := by
  have hother : ∀ c ∈ word ++ call.between, isQuote c = false ∧ c ≠ '[' ∧ c ≠ '-' :=
    List.forall_mem_append.mpr ⟨by decide, call.isGap_between.plain⟩
  have hquote : ∀ c ∈ call.front ++ (word ++ call.between), isQuote c = false :=
    List.forall_mem_append.mpr ⟨call.isPlain_front.unquoted, fun c hc => (hother c hc).1⟩
  have hbracket : '[' ∉ call.front ++ (word ++ call.between) := fun hmem =>
    (List.mem_append.mp hmem).elim call.isPlain_front.bracketless fun hmem =>
      (hother '[' hmem).2.1 rfl
  have hdashes : ¬ "--".toList <:+: call.front ++ (word ++ call.between) := fun hdashes =>
    call.isPlain_front.dashless
      (@Text.isInfix_of_last_not_mem _ _ '-' ['-'] hdashes fun hmem => (hother '-' hmem).2.2 rfl)
  have hcode := Signature.codeOf_append_quote (call.quote :: (call.name ++ call.quote :: rest))
    hquote hbracket hdashes ?_
  · rw [Signature.codeOf_string call.isQuote_quote call.quote_not_mem call.backslash_not_mem]
      at hcode
    simpa [text, opening] using hcode
  · rintro c hc
    obtain rfl : call.quote = c := by simpa using hc
    exact call.isQuote_quote

/-- A line of references is code. -/
theorem codeOf_written (calls : List WrittenCall) {tail : Text} (htail : IsPlain tail) :
    Signature.codeOf (written calls tail) = written calls tail := by
  unfold written
  induction calls with
  | nil =>
    have hcode := Signature.codeOf_append_quote [] htail.unquoted htail.bracketless
      htail.dashless (by rintro _ ⟨⟩)
    simpa using hcode
  | cons call calls ih => rw [List.flatMap_cons, List.append_assoc, call.codeOf_text, ih]

/-- Text is skipped in which the word stands nowhere. -/
theorem callsFrom_append_wordless {front rest : Text} {before? : Option Char} {offset : Nat}
    (hword : ∀ skipped inner, front = skipped ++ inner → inner ≠ [] → ¬ word <+: inner ++ rest) :
    callsFrom before? offset (front ++ rest) =
      callsFrom (front.getLast?.or before?) (offset + front.length) rest := by
  induction front generalizing before? offset with
  | nil => rfl
  | cons c front ih =>
    have hnone : call? before? (c :: (front ++ rest)) = none := by
      rw [Option.eq_none_iff_forall_ne_some]
      rintro ⟨skipped, name⟩ hcall
      obtain ⟨-, between, quote, after, -, -, -, -, hsplit, -⟩ := call?_eq_some_iff.mp hcall
      exact hword [] (c :: front) rfl (List.cons_ne_nil c front)
        ⟨between ++ quote :: (name ++ quote :: after), by simp [hsplit]⟩
    have hrest := @ih (some c) (offset + 1) fun skipped inner hsplit hne =>
      hword (c :: skipped) inner (by rw [hsplit, List.cons_append]) hne
    rw [List.cons_append, callsFrom, hnone]
    dsimp only
    rw [hrest, Text.getLast?_or_cons c front before?, List.length_cons, Nat.add_assoc,
      Nat.add_comm 1]

/-- What is found where a reference is written, and behind it. -/
theorem callsFrom_text (call : WrittenCall) (offset : Nat) (rest : Text) :
    callsFrom none offset (call.text ++ rest) =
      (offset + call.opening.length, call.name) ::
        callsFrom none (offset + call.text.length) rest := by
  have hsplit : call.text ++ rest = call.front ++
      (word ++ call.between ++ call.quote :: (call.name ++ call.quote :: rest)) := by
    simp [WrittenCall.text, WrittenCall.opening]
  have hskip : ∀ skipped inner, call.front = skipped ++ inner → inner ≠ [] →
      ¬ word <+: inner ++
        (word ++ call.between ++ call.quote :: (call.name ++ call.quote :: rest)) := by
    intro skipped inner hfront hne hpre
    rcases List.prefix_or_prefix_of_prefix hpre (List.prefix_append inner _) with hinside | hend
    · exact call.isPlain_front.wordless
        (hinside.isInfix.trans (hfront ▸ (List.suffix_append skipped inner).isInfix))
    · -- The text in front would end inside the word.
      have hparts : ∀ c ∈ word, Text.isWordPart c = true := by decide
      have hlast := call.front_ends (inner.getLast hne)
        (by rw [hfront, List.getLast?_append_of_ne_nil _ hne, List.getLast?_eq_some_getLast hne]
            rfl)
      rw [hparts _ (hend.subset (List.getLast_mem hne))] at hlast
      cases hlast
  have hbefore : (call.front.getLast?.or none).any Text.isWordPart = false := by
    rw [Option.or_none]
    cases hlast : call.front.getLast? with
    | none => rfl
    | some c => exact call.front_ends c hlast
  have hcall := call?_eq_some_iff.mpr ⟨hbefore, call.between, call.quote, rest,
    call.isGap_between, call.isQuote_quote, call.quote_not_mem, call.name_ne_nil, rfl, rfl⟩
  rw [hsplit, callsFrom_append_wordless hskip]
  generalize hbehind : word ++ call.between ++ call.quote :: (call.name ++ call.quote :: rest) =
    behind at hcall
  cases behind with
  | nil => simp at hbehind
  | cons c behind =>
    rw [callsFrom, hcall]
    dsimp only
    have hdrop : behind.drop (word.length + call.between.length + 1 + call.name.length) = rest := by
      have hwhole : c :: behind =
          word ++ call.between ++ call.quote :: (call.name ++ [call.quote]) ++ rest := by
        simp [← hbehind]
      have hrest := congrArg (List.drop (word.length + call.between.length + 1 +
        call.name.length + 1)) hwhole
      rwa [List.drop_succ_cons, List.drop_left' (by simp; omega)] at hrest
    rw [hdrop]
    congr 1
    · simp [WrittenCall.opening, Nat.add_assoc]
    · congr 1
      simp only [WrittenCall.text, WrittenCall.opening, List.length_append, List.length_cons,
        List.length_nil]
      omega

/-- What is found on a line of references, with the bytes that stand in front of each name. -/
theorem map_callsFrom_written (number : Nat) (front : Text) (calls : List WrittenCall)
    {tail : Text} (htail : IsPlain tail) :
    (callsFrom none front.length (written calls tail)).map (fun (offset, name) =>
        (⟨name, number, Text.utf8Length ((front ++ written calls tail).take offset)⟩ :
          Reference)) =
      writtenFrom number (Text.utf8Length front) calls := by
  induction calls generalizing front with
  | nil =>
    have hnone := @callsFrom_append_wordless tail [] none front.length
      fun skipped inner hsplit _ hpre => htail.wordless
        ((List.append_nil inner ▸ hpre).isInfix.trans
          (hsplit ▸ (List.suffix_append skipped inner).isInfix))
    rw [List.append_nil] at hnone
    rw [written, List.flatMap_nil, List.nil_append, hnone, callsFrom]
    rfl
  | cons call calls ih =>
    have hline : written (call :: calls) tail = call.text ++ written calls tail := by
      rw [written, List.flatMap_cons, List.append_assoc, written]
    have hplace : (front ++ written (call :: calls) tail).take
        (front.length + call.opening.length) = front ++ call.opening := by
      rw [hline, WrittenCall.text, List.append_assoc, ← List.append_assoc,
        ← List.length_append, List.take_left]
    have hrest := ih (front ++ call.text)
    rw [List.append_assoc, ← hline, List.length_append, Text.utf8Length_append] at hrest
    conv => lhs; rw [hline, callsFrom_text, ← hline]
    rw [List.map_cons, hrest]
    dsimp only
    rw [hplace, Text.utf8Length_append, writtenFrom]

/-- On a line of references just these are found. -/
theorem ofLine_written (number : Nat) (calls : List WrittenCall) {tail : Text}
    (htail : IsPlain tail) : ofLine number (written calls tail) = writtenFrom number 0 calls := by
  have hcode := codeOf_written calls htail
  have hline := @ofLine_eq (written calls tail) [] number (Or.inr (List.forall_mem_nil _))
    (by rw [List.append_nil, hcode]) (namesEnd_of_code (by rw [List.append_nil, hcode]))
  rw [List.append_nil] at hline
  rw [hline]
  exact map_callsFrom_written number [] calls htail

end Require

end LuaAssist

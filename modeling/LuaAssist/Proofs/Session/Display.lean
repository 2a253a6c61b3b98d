import LuaAssist.Proofs.Document.Columns
import LuaAssist.Proofs.Session.Caches
import LuaAssist.Proofs.Token.Marked
import LuaAssist.Protocol.Answers

/-!
# Tokens for display are decoded again

An editor receives five numbers for a token and adds up the distances. What it gets is every
token with text that is not blank, at the UTF-16 units of the texts in front of it and as long
as its own text. The distances and lengths are differences of natural numbers, none of which
would be negative, for the shown tokens follow one another without overlaps.
-/

namespace LuaAssist

namespace Session

/-! ## What an editor decodes -/

/-- A token that starts behind the end of another, in document order. -/
def PlacedToken.Before (token other : PlacedToken) : Prop :=
  token.line < other.line ∨ token.line = other.line ∧ token.column + token.length ≤ other.column

/-- The tokens of a rest of a line that are shown: those with text that are not blank, behind
the UTF-16 units of the texts in front of them. -/
def shownFrom (number column : Nat) : List Token → List PlacedToken
  | [] => []
  | token :: rest =>
    let behind := shownFrom number (column + Text.utf16Length token.text) rest
    if token.text ≠ [] ∧ token.kind ≠ .whitespace ∧ token.kind ≠ .lineEnd then
      ⟨number, column, Text.utf16Length token.text, token.kind⟩ :: behind
    else behind

/-- The shown tokens of numbered lines. -/
def shownLines (number : Nat) : List LineScan → List PlacedToken
  | [] => []
  | scan :: rest => shownFrom number 0 scan.tokens ++ shownLines (number + 1) rest

/-- The tokens of a text that are shown. -/
def shown (text : Text) : List PlacedToken := shownLines 0 (Highlight.document text)

/-- The five numbers of each token. -/
def numbers (tokens : List DisplayToken) : List Nat :=
  tokens.flatMap fun token =>
    [token.lines, token.columns, token.length, token.kind.legendIndex, 0]

/-- Reads five numbers for each token, behind a token at the given place: how many lines below
that it stands, its column from there or from the start of its line, its length, its place in
the legend, and no modifiers. -/
def decode? (line column : Nat) : List Nat → Option (List PlacedToken)
  | [] => some []
  | lines :: columns :: length :: index :: 0 :: rest => do
    let start := if lines = 0 then column + columns else columns
    let kind ← TokenKind.all[index]?
    let behind ← decode? (line + lines) start rest
    some (⟨line + lines, start, length, kind⟩ :: behind)
  | _ => none

/-! ## Differences that could fail -/

/-- The first number without the second, which must not be larger. -/
def minus? (a b : Nat) : Option Nat := if b ≤ a then some (a - b) else none

/-- The columns from the start of the last token to a start some lines below, or those from the
start of its own line. -/
def columnsTo? (lines column start : Nat) : Option Nat :=
  if lines = 0 then minus? start column else some start

/-- A span on a numbered line. -/
structure LineSpan where
  number : Nat
  line : Text
  span : Span

/-- Spans that are shown. -/
def LineSpan.isShown (s : LineSpan) : Bool :=
  0 < s.span.length && s.span.kind ≠ .whitespace && s.span.kind ≠ .lineEnd

/-- The spans of numbered lines. -/
def lineSpans (number : Nat) : List (Text × LineScan) → List LineSpan
  | [] => []
  | (line, scan) :: rest =>
    scan.spans.map (fun span => ⟨number, line, span⟩) ++ lineSpans (number + 1) rest

/-- The shown spans of numbered lines by their distances, in one pass that keeps the place of the
last shown span, and in which every difference must exist. -/
def encode? (line column : Nat) : List LineSpan → Option (List DisplayToken)
  | [] => some []
  | s :: rest =>
    if s.isShown then do
      let start := Document.utf16Column s.line s.span.start
      let length ← minus? (Document.utf16Column s.line (s.span.start + s.span.length)) start
      let lines ← minus? s.number line
      let columns ← columnsTo? lines column start
      let behind ← encode? s.number start rest
      some (⟨lines, columns, length, s.span.kind⟩ :: behind)
    else encode? line column rest

/-! ## Shown tokens -/

/-- A token does not start before the given place. -/
def PlacedToken.From (line column : Nat) (token : PlacedToken) : Prop :=
  line < token.line ∨ line = token.line ∧ column ≤ token.column

/-- What follows a token does not start before it. -/
theorem PlacedToken.Before.from {token other : PlacedToken} (hbefore : token.Before other) :
    other.From token.line token.column := by
  rcases hbefore with hline | ⟨hline, hcolumn⟩
  · exact Or.inl hline
  · exact Or.inr ⟨hline, by omega⟩

/-- The shown tokens of a rest of a line stand there, have a length and end with the rest. -/
theorem bounds_of_mem_shownFrom {number column : Nat} {tokens : List Token} {token : PlacedToken}
    (hmem : token ∈ shownFrom number column tokens) :
    token.line = number ∧ column ≤ token.column ∧ 0 < token.length ∧
      token.column + token.length ≤
        column + Text.utf16Length (tokens.map Token.text).flatten := by
  induction tokens generalizing column with
  | nil => cases hmem
  | cons first rest ih =>
    rw [List.map_cons, List.flatten_cons, Text.utf16Length_append]
    have hbehind : token ∈ shownFrom number (column + Text.utf16Length first.text) rest →
        token.line = number ∧ column ≤ token.column ∧ 0 < token.length ∧
          token.column + token.length ≤ column + (Text.utf16Length first.text +
            Text.utf16Length (rest.map Token.text).flatten) := by
      intro hmem
      obtain ⟨hline, hcolumn, hlength, hend⟩ := ih hmem
      exact ⟨hline, by omega, hlength, by omega⟩
    rw [shownFrom] at hmem
    split at hmem
    · rename_i hshown
      rcases List.mem_cons.mp hmem with rfl | hmem
      · obtain ⟨c, others, htext⟩ := List.exists_cons_of_ne_nil hshown.1
        have hwidth := Text.utf16Width_pos c
        refine ⟨rfl, Nat.le_refl _, ?_, by dsimp only; omega⟩
        simp only [htext, Text.utf16Length]
        omega
      · exact hbehind hmem
    · exact hbehind hmem

/-- The shown tokens of a rest of a line follow one another. -/
theorem pairwise_shownFrom (number column : Nat) (tokens : List Token) :
    (shownFrom number column tokens).Pairwise PlacedToken.Before := by
  induction tokens generalizing column with
  | nil => exact .nil
  | cons first rest ih =>
    rw [shownFrom]
    split
    · refine .cons (fun token hmem => ?_) (ih _)
      obtain ⟨hline, hcolumn, _⟩ := bounds_of_mem_shownFrom hmem
      exact Or.inr ⟨hline.symm, hcolumn⟩
    · exact ih _

/-- A shown token of numbered lines is one of a line. -/
theorem exists_of_mem_shownLines {number : Nat} {scans : List LineScan} {token : PlacedToken}
    (hmem : token ∈ shownLines number scans) :
    ∃ index scan, scans[index]? = some scan ∧
      token ∈ shownFrom (number + index) 0 scan.tokens := by
  induction scans generalizing number with
  | nil => cases hmem
  | cons scan rest ih =>
    rcases List.mem_append.mp hmem with hmem | hmem
    · exact ⟨0, scan, rfl, hmem⟩
    · obtain ⟨index, other, hother, hmem⟩ := ih hmem
      refine ⟨index + 1, other, hother, ?_⟩
      rwa [← Nat.add_assoc, Nat.add_right_comm]

/-- The shown tokens of numbered lines follow one another. -/
theorem pairwise_shownLines (number : Nat) (scans : List LineScan) :
    (shownLines number scans).Pairwise PlacedToken.Before := by
  induction scans generalizing number with
  | nil => exact .nil
  | cons scan rest ih =>
    refine List.pairwise_append.mpr ⟨pairwise_shownFrom _ _ _, ih _, ?_⟩
    intro token hmem other hother
    obtain ⟨hline, _⟩ := bounds_of_mem_shownFrom hmem
    obtain ⟨index, _, _, hother⟩ := exists_of_mem_shownLines hother
    obtain ⟨hbelow, _⟩ := bounds_of_mem_shownFrom hother
    exact Or.inl (by omega)

/-- Shown tokens have a length, and none ends further from the start than the text. -/
theorem bounds_of_mem_shown {text : Text} {token : PlacedToken} (hmem : token ∈ shown text) :
    0 < token.length ∧ token.line + token.column + token.length ≤ Text.utf16Length text := by
  obtain ⟨index, scan, hscan, hmem⟩ := exists_of_mem_shownLines hmem
  obtain ⟨hline, _, hlength, hend⟩ := bounds_of_mem_shownFrom hmem
  have hcovered : (Text.lines text)[index]? = some (scan.tokens.map Token.text).flatten := by
    rw [← Highlight.map_flatten_document, List.getElem?_map, hscan]
    rfl
  have hunits := Text.units_lines_le hcovered
  exact ⟨hlength, by omega⟩

/-! ## The places of spans -/

/-- The place of a span, by its byte columns. -/
def LineSpan.place (s : LineSpan) : PlacedToken :=
  let start := Document.utf16Column s.line s.span.start
  ⟨s.number, start, Document.utf16Column s.line (s.span.start + s.span.length) - start, s.span.kind⟩

/-- Placed tokens are the places of shown spans. -/
theorem placedFrom_eq (number : Nat) (lines : List (Text × LineScan)) :
    placedFrom number lines = ((lineSpans number lines).filter LineSpan.isShown).map
      LineSpan.place := by
  induction lines generalizing number with
  | nil => rfl
  | cons first rest ih =>
    rw [placedFrom, lineSpans, List.filter_append, List.map_append, ih, List.filter_map,
      List.map_map]
    rfl

/-- The span of a token is shown if the token has text that is not blank. -/
theorem isShown_iff {number start : Nat} {line : Text} {token : Token} :
    LineSpan.isShown ⟨number, line, ⟨token.kind, start, Text.utf8Length token.text⟩⟩ = true ↔
      token.text ≠ [] ∧ token.kind ≠ .whitespace ∧ token.kind ≠ .lineEnd := by
  have hlength : 0 < Text.utf8Length token.text ↔ token.text ≠ [] := by
    rw [Nat.pos_iff_ne_zero, ne_eq, Text.utf8Length_eq_zero]
  simp [LineSpan.isShown, hlength, and_assoc]

/-- Behind a front of a line the places of the shown spans are told by the texts. -/
theorem places_spansFrom (number : Nat) {line front : Text} {tokens : List Token}
    (hline : line = front ++ (tokens.map Token.text).flatten) :
    (((LineScan.spansFrom (Text.utf8Length front) tokens).map
        (LineSpan.mk number line)).filter LineSpan.isShown).map LineSpan.place =
      shownFrom number (Text.utf16Length front) tokens := by
  induction tokens generalizing front with
  | nil => rfl
  | cons token rest ih =>
    have hrest : line = (front ++ token.text) ++ (rest.map Token.text).flatten := by
      rw [hline, List.map_cons, List.flatten_cons, List.append_assoc]
    have hbehind := ih hrest
    rw [Text.utf8Length_append, Text.utf16Length_append] at hbehind
    have hplace : LineSpan.place ⟨number, line,
        ⟨token.kind, Text.utf8Length front, Text.utf8Length token.text⟩⟩ =
          ⟨number, Text.utf16Length front, Text.utf16Length token.text, token.kind⟩ := by
      have hstart : Document.utf16Column line (Text.utf8Length front) = Text.utf16Length front :=
        hline ▸ Document.utf16Column_append _ _
      have hstop : Document.utf16Column line
          (Text.utf8Length front + Text.utf8Length token.text) =
            Text.utf16Length front + Text.utf16Length token.text := by
        rw [← Text.utf8Length_append, ← Text.utf16Length_append, hrest]
        exact Document.utf16Column_append _ _
      simp only [LineSpan.place, hstart, hstop, Nat.add_sub_cancel_left]
    rw [LineScan.spansFrom, List.map_cons, List.filter_cons, shownFrom]
    by_cases hshown : token.text ≠ [] ∧ token.kind ≠ .whitespace ∧ token.kind ≠ .lineEnd
    · rw [if_pos (isShown_iff.mpr hshown), if_pos hshown, List.map_cons, hbehind, hplace]
    · rw [if_neg (mt isShown_iff.mp hshown), if_neg hshown, hbehind]

/-- On lines that are covered by their tokens the placed tokens are those that are shown. -/
theorem placedFrom_eq_shownLines (number : Nat) {lines : List Text} {scans : List LineScan}
    (hcover : scans.map (fun scan => (scan.tokens.map Token.text).flatten) = lines) :
    placedFrom number (lines.zip scans) = shownLines number scans := by
  induction scans generalizing number lines with
  | nil =>
    rw [← hcover]
    rfl
  | cons scan rest ih =>
    rw [← hcover, List.map_cons, List.zip_cons_cons, placedFrom, shownLines, ih _ rfl]
    congr 1
    have hfirst : _ = shownFrom number 0 scan.tokens := places_spansFrom number
      (show (scan.tokens.map Token.text).flatten = [] ++ _ from rfl)
    rw [← hfirst, List.filter_map, List.map_map]
    rfl

/-! ## Encoding and decoding -/

/-- A difference that does not fall below zero is there. -/
theorem minus?_of_le {a b : Nat} (hle : b ≤ a) : minus? a b = some (a - b) := if_pos hle

/-- Lines and columns from one place to a token that does not start before it. -/
theorem PlacedToken.From.cases {line column : Nat} {token : PlacedToken}
    (hfrom : token.From line column) {lines columns : Nat} (hlines : lines = token.line - line)
    (hcolumns : columns = if token.line = line then token.column - column else token.column) :
    line + lines = token.line ∧
      (if lines = 0 then column + columns else columns) = token.column ∧
      minus? token.line line = some lines ∧
      columnsTo? lines column token.column = some columns := by
  subst hlines hcolumns
  unfold columnsTo?
  rcases hfrom with hbelow | ⟨hsame, hcolumn⟩
  · rw [if_neg (by omega), if_neg (by omega), if_neg (by omega)]
    exact ⟨by omega, rfl, minus?_of_le (Nat.le_of_lt hbelow), rfl⟩
  · rw [if_pos (by omega), if_pos hsame.symm, if_pos (by omega)]
    exact ⟨by omega, by omega, minus?_of_le (Nat.le_of_eq hsame), minus?_of_le hcolumn⟩

/-- No difference fails if the shown spans follow one another behind the given place. -/
theorem encode?_eq {line column : Nat} {spans : List LineSpan}
    (hfrom : ∀ token ∈ (spans.filter LineSpan.isShown).map LineSpan.place, token.From line column)
    (hpairs : ((spans.filter LineSpan.isShown).map LineSpan.place).Pairwise PlacedToken.Before) :
    encode? line column spans =
      some (distancesFrom line column ((spans.filter LineSpan.isShown).map LineSpan.place)) := by
  induction spans generalizing line column with
  | nil => rfl
  | cons s rest ih =>
    rw [encode?, List.filter_cons]
    rw [List.filter_cons] at hfrom hpairs
    by_cases hshown : s.isShown = true
    · rw [if_pos hshown, if_pos hshown]
      rw [if_pos hshown, List.map_cons] at hfrom hpairs
      obtain ⟨hbefore, hpairs⟩ := List.pairwise_cons.mp hpairs
      obtain ⟨_, _, hlines, hcolumns⟩ := (hfrom _ List.mem_cons_self).cases rfl rfl
      have hlength : minus? _ _ = some s.place.length := minus?_of_le
        (Document.utf16Column_mono (Nat.le_add_right s.span.start s.span.length))
      have hrest : encode? s.place.line s.place.column rest = _ :=
        ih (fun token hmem => (hbefore token hmem).from) hpairs
      simp only [LineSpan.place] at hlines hcolumns hlength hrest
      simp only [hlength, hlines, hcolumns, hrest, Option.bind_eq_bind, Option.bind_some]
      rfl
    · rw [if_neg hshown, if_neg hshown]
      rw [if_neg hshown] at hfrom hpairs
      exact ih hfrom hpairs

/-- A category is found at its place in the legend. -/
theorem getElem?_legendIndex (kind : TokenKind) :
    TokenKind.all[kind.legendIndex]? = some kind := by
  cases kind <;> rfl

/-- The numbers of tokens that follow one another behind the given place are decoded. -/
theorem decode?_numbers {line column : Nat} {placed : List PlacedToken}
    (hfrom : ∀ token ∈ placed, token.From line column)
    (hpairs : placed.Pairwise PlacedToken.Before) :
    decode? line column (numbers (distancesFrom line column placed)) = some placed := by
  induction placed generalizing line column with
  | nil => rfl
  | cons token rest ih =>
    obtain ⟨hbefore, hpairs⟩ := List.pairwise_cons.mp hpairs
    obtain ⟨hline, hcolumn, _, _⟩ := (hfrom _ List.mem_cons_self).cases rfl rfl
    have hrest := ih (fun other hmem => (hbefore other hmem).from) hpairs
    rw [distancesFrom, numbers, List.flatMap_cons, List.cons_append, List.cons_append,
      List.cons_append, List.cons_append, List.cons_append, List.nil_append, decode?]
    simp only [hline, hcolumn, getElem?_legendIndex, Option.bind_eq_bind, Option.bind_some]
    rw [← numbers, hrest]
    rfl

/-- The message about some tokens holds their numbers. -/
theorem displayTokens_eq_numbers (tokens : List DisplayToken) :
    Protocol.displayTokens (some tokens) =
      .ofFields [("data", .list ((numbers tokens).map .ofNat))] := by
  rw [numbers, List.map_flatMap]
  rfl

/-- The tokens of an open document are told by differences of which none fails, and the numbers
for them are decoded: to one entry for every token with text that is not blank, line by line
and in order, with its line, the UTF-16 units in front of it, those of its text and its
category. The tokens cover the lines, the entries have a length and do not overlap, and no place
in them lies further from the start than the text is long. -/
theorem displayTokens_decoded {session : Session} {uri : Uri} {document : OpenDocument}
    (hopen : session.document? uri = some document) :
    ∃ tokens, session.displayTokens uri = some tokens ∧
      encode? 0 0 (lineSpans 0
        ((Text.lines document.text).zip (Highlight.document document.text))) = some tokens ∧
      Protocol.displayTokens (some tokens) =
        .ofFields [("data", .list ((numbers tokens).map .ofNat))] ∧
      decode? 0 0 (numbers tokens) = some (shown document.text) ∧
      (Highlight.document document.text).map (fun scan => (scan.tokens.map Token.text).flatten) =
        Text.lines document.text ∧
      (shown document.text).Pairwise PlacedToken.Before ∧
      ∀ token ∈ shown document.text, 0 < token.length ∧
        token.line + token.column + token.length ≤ Text.utf16Length document.text := by
  have hcover := Highlight.map_flatten_document document.text
  have hplaced : placedTokens document.text = shown document.text :=
    placedFrom_eq_shownLines 0 hcover
  have hpairs : (shown document.text).Pairwise PlacedToken.Before := pairwise_shownLines _ _
  have hfrom : ∀ token ∈ shown document.text, token.From 0 0 := by
    intro token _
    rcases Nat.eq_zero_or_pos token.line with hzero | hpos
    · exact Or.inr ⟨hzero.symm, Nat.zero_le _⟩
    · exact Or.inl hpos
  refine ⟨distancesFrom 0 0 (shown document.text), ?_, ?_, displayTokens_eq_numbers _,
    decode?_numbers hfrom hpairs, hcover, hpairs, fun _ => bounds_of_mem_shown⟩
  · rw [displayTokens, hopen, Option.map_some, hplaced]
  · rw [← hplaced] at hfrom hpairs ⊢
    rw [placedTokens, placedFrom_eq] at hfrom hpairs ⊢
    exact encode?_eq hfrom hpairs

/-- A document with a character of two units in front of a token, and a line without tokens. -/
def shownText : Text := "x = '😀' -- y\r\n\nrequire x".toList

/-- A session with that document. -/
def shownSession : Session :=
  (Session.new { Config.default none with builtins := false }).openDocument draft shownText none

/-- The comment starts nine units from the start of its line. -/
theorem displayTokens_decoded_units :
    shownSession.document? draft = some ⟨shownText, none⟩ ∧
      ∃ tokens, shownSession.displayTokens draft = some tokens ∧
        decode? 0 0 (numbers tokens) = some
          [⟨0, 0, 1, .identifier⟩, ⟨0, 2, 1, .operator⟩, ⟨0, 4, 4, .string⟩, ⟨0, 9, 4, .comment⟩,
            ⟨2, 0, 7, .keyword⟩, ⟨2, 8, 1, .requiredModule⟩] := by
  have hopen : shownSession.document? draft = some ⟨shownText, none⟩ := by decide +kernel
  obtain ⟨tokens, htokens, _, _, hdecode, _⟩ := displayTokens_decoded hopen
  refine ⟨hopen, tokens, htokens, ?_⟩
  rw [hdecode]
  decide +kernel

end Session

end LuaAssist

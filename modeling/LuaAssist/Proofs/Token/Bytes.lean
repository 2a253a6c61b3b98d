import LuaAssist.Proofs.Token.Partition
import LuaAssist.Proofs.Token.Prefix
import LuaAssist.Proofs.Token.Spread
import LuaAssist.Text.Alphanumeric

/-!
# Cutting a line at its bytes

The lexer once more, on the bytes of a line: it reads byte by byte and then cuts out the bytes
of each token, where a cut beyond the end or inside a character fails. No cut fails, the tokens
are those of the line's characters, and their spans lie end to end over the whole line.
-/

namespace LuaAssist.Lexer

/-! ## The lexer on bytes -/

/-- The text of the first bytes and the bytes behind them. It fails beyond the end of the bytes
and inside a character. -/
def cut? (length : Nat) (bytes : List UInt8) : Option (Text × List UInt8) :=
  if length ≤ bytes.length then
    (Text.ofUtf8? (bytes.take length)).map fun text => (text, bytes.drop length)
  else none

/-- How a token goes on behind its first byte, counted in bytes. Only a token that begins with
no ASCII byte asks for a whole character, and fails where none begins. -/
def readBytes? (memory : Memory) (first : UInt8) (rest : List UInt8) : Option Reading :=
  if first.toNat < 0x80 then some (read memory (ofByte first) (rest.map ofByte))
  else match Text.readChar first rest with
    | (some _, more) => some (.closed .identifier more)
    | (none, _) => none

/-- The tokens of the bytes of a rest of a line and the state behind it. -/
def tokensFromBytes? (memory : Memory) (state : LineState) : List UInt8 → Option LineScan
  | [] => some ⟨[⟨.lineEnd, []⟩], state⟩
  | first :: rest =>
    match readBytes? memory first rest with
    | none => none
    | some reading =>
      match cut? (reading.more + 1) (first :: rest) with
      | none => none
      | some (text, _) =>
        let token : Token := ⟨reading.kind, text⟩
        (tokensFromBytes? (memory.after token) reading.state (rest.drop reading.more)).map
          fun scan => ⟨token :: scan.tokens, scan.state⟩
  termination_by bytes => bytes.length
  decreasing_by simp only [List.length_drop, List.length_cons]; omega

/-- The bytes of a line at whose start a long token is open. -/
def continueLongBytes? (form : LongForm) (level : Nat) (line : List UInt8) : Option LineScan :=
  match longClose? level (line.map ofByte) with
  | some length =>
    match cut? length line with
    | none => none
    | some (text, behind) =>
      let token : Token := ⟨form.kind, text⟩
      (tokensFromBytes? (Memory.start.after token) .code behind).map
        fun scan => ⟨token :: scan.tokens, scan.state⟩
  | none =>
    (Text.ofUtf8? line).map fun text =>
      withFront form.kind text ⟨[⟨.lineEnd, []⟩], form.state level⟩

/-- Cuts the bytes of a line into tokens. -/
def scanBytes? (line : List UInt8) : LineState → Option LineScan
  | .code => tokensFromBytes? .start .code line
  | .longComment level => continueLongBytes? .comment level line
  | .longString level => continueLongBytes? .string level line

/-! ## No cut fails -/

/-- A cut behind the bytes of some characters falls between these and the others. -/
theorem cut?_toUtf8 (length : Nat) (text : Text) :
    cut? (Text.utf8Length (text.take length)) (Text.toUtf8 text) =
      some (text.take length, Text.toUtf8 (text.drop length)) := by
  have hbytes : Text.toUtf8 text =
      Text.toUtf8 (text.take length) ++ Text.toUtf8 (text.drop length) := by
    rw [← Text.toUtf8_append, List.take_append_drop]
  rw [cut?, ← Text.length_toUtf8, if_pos (by rw [hbytes, List.length_append]; omega)]
  conv => lhs; rw [hbytes, List.take_left, List.drop_left, Text.ofUtf8?_toUtf8]
  rfl

/-- Behind a cut stands what it leaves of the bytes. -/
theorem drop_of_cut? {length : Nat} {bytes behind : List UInt8} {text : Text}
    (hcut : cut? length bytes = some (text, behind)) : bytes.drop length = behind := by
  unfold cut? at hcut
  split at hcut
  · obtain ⟨_, -, hpair⟩ := Option.map_eq_some_iff.mp hcut
    exact (Prod.mk.inj hpair).2
  · cases hcut

/-- A reading that counts in bytes, of a token that goes on into the given rest. -/
def Reading.inBytes (reading : Reading) (rest : Text) : Reading :=
  { reading with more := Text.utf8Length (rest.take reading.more) }

/-- A token of ASCII characters takes as many bytes. -/
theorem inBytes_of_isAscii (kind : TokenKind) {more : Nat} {rest : Text}
    (hmore : more ≤ rest.length)
    (hascii : ∀ c ∈ rest.take more, IsAscii c) :
    (Reading.closed kind more).inBytes rest = .closed kind more := by
  simp only [Reading.inBytes, Reading.closed, utf8Length_of_isAscii hascii, List.length_take,
    Nat.min_eq_left hmore]

/-- A token over the whole rest takes all of its bytes. -/
theorem inBytes_whole (kind : TokenKind) (state : LineState) (rest : Text) :
    Reading.inBytes ⟨kind, rest.length, state⟩ rest = ⟨kind, (spread rest).length, state⟩ := by
  simp [Reading.inBytes, length_spread]

/-- A long token whose bracket is ASCII is read among the bytes as among the characters. -/
theorem readLong_spread (form : LongForm) (level : Nat) {skip : Nat} {rest : Text}
    (hskip : skip ≤ rest.length) (hascii : ∀ c ∈ rest.take skip, IsAscii c) :
    readLong form level skip (spread rest) = (readLong form level skip rest).inBytes rest := by
  have hfront : Text.utf8Length (rest.take skip) = skip := by
    rw [utf8Length_of_isAscii hascii, List.length_take, Nat.min_eq_left hskip]
  have hdrop : (spread rest).drop skip = spread (rest.drop skip) := by
    rw [← drop_spread, hfront]
  unfold readLong
  rw [hdrop, longClose?_spread]
  cases longClose? level (rest.drop skip) with
  | some length =>
    simp only [Option.map_some, Reading.inBytes, Reading.closed, List.take_add,
      Text.utf8Length_append, hfront]
  | none => exact (inBytes_whole _ _ _).symm

/-- The level of a long bracket and its second `[` are ASCII. -/
theorem isAscii_of_longOpen? {level : Nat} {rest : Text} (hopen : longOpen? rest = some level) :
    ∀ c ∈ rest.take (level + 1), IsAscii c := by
  obtain ⟨body, rfl⟩ := longOpen?_eq_some.mp hopen
  have htake : (List.replicate level '=' ++ '[' :: body).take (level + 1) =
      List.replicate level '=' ++ ['['] := by simp [List.take_append]
  rw [htake, List.forall_mem_append]
  refine ⟨fun c hc => ?_, by decide⟩
  rw [List.eq_of_mem_replicate hc]
  decide

/-- A comment is read among the bytes as among the characters. -/
theorem readComment_spread {rest : Text} (hdash : rest.head? = some '-') :
    readComment (spread rest) = (readComment rest).inBytes rest := by
  obtain ⟨rest, rfl⟩ := List.head?_eq_some_iff.mp hdash
  have hminus : IsAscii '-' := by decide
  have hbracket : IsAscii '[' := by decide
  by_cases hopen : ∃ body level, rest = '[' :: body ∧ longOpen? body = some level
  · obtain ⟨body, level, rfl, hlevel⟩ := hopen
    have hlong : readComment (spread ('-' :: '[' :: body)) =
        readLong .comment level (level + 3) (spread ('-' :: '[' :: body)) := by
      rw [spread_cons_of_isAscii hminus, spread_cons_of_isAscii hbracket]
      exact readComment_of_longOpen? (by rw [longOpen?_spread, hlevel])
    have hle := lt_of_longOpen? hlevel
    rw [hlong, readComment_of_longOpen? hlevel]
    apply readLong_spread
    · simp only [List.length_cons]
      omega
    · simp only [List.take_succ_cons, List.forall_mem_cons]
      exact ⟨hminus, hbracket, isAscii_of_longOpen? hlevel⟩
  · have hline : ∀ body, rest = '[' :: body → longOpen? body = none := fun body hbody =>
      Option.eq_none_iff_forall_ne_some.mpr fun level hlevel => hopen ⟨body, level, hbody, hlevel⟩
    rw [spread_cons_of_isAscii hminus, readComment_line hline, readComment_line,
      ← spread_cons_of_isAscii hminus]
    · exact (inBytes_whole _ _ _).symm
    · intro bytes hbytes
      obtain ⟨body, rfl⟩ := List.head?_eq_some_iff.mp
        ((head?_spread hbracket rest).mp (by rw [hbytes, List.head?_cons]))
      rw [spread_cons_of_isAscii hbracket] at hbytes
      rw [← (List.cons.inj hbytes).2, longOpen?_spread, hline body rfl]

/-- A space is ASCII. -/
theorem isAscii_of_isSpace {c : Char} (hc : isSpace c = true) : IsAscii c := by
  simp only [isSpace, Bool.or_eq_true, decide_eq_true_eq] at hc
  rcases hc with (((rfl | rfl) | rfl) | rfl) | rfl <;> decide

/-- So is a letter. -/
theorem isAscii_of_isAlpha {c : Char} (hc : c.isAlpha = true) : IsAscii c :=
  Nat.lt_of_le_of_lt (bounds_of_isAlpha hc).2 (by decide)

/-- So is all that stands in a name. -/
theorem isAscii_of_isNamePart {c : Char} (hc : isNamePart c = true) : IsAscii c := by
  simp only [isNamePart, Char.isAlphanum, Bool.or_eq_true, decide_eq_true_eq] at hc
  rcases hc with (hc | hc) | rfl
  · exact isAscii_of_isAlpha hc
  · exact isAscii_of_isDigit hc
  · decide

/-- The parts of a name are typed as parts of an identifier. -/
theorem isIdentifierPart_of_isNamePart {c : Char} (hpart : isNamePart c = true) :
    Text.isIdentifierPart c = true := by
  have hascii : c.toNat < 0x80 := isAscii_of_isNamePart hpart
  rwa [Text.isIdentifierPart, Text.isAlphanumeric, if_pos hascii]

/-- So is what begins one. -/
theorem isAscii_of_isNameStart {c : Char} (hc : isNameStart c = true) : IsAscii c := by
  simp only [isNameStart, Bool.or_eq_true, decide_eq_true_eq] at hc
  rcases hc with hc | rfl
  · exact isAscii_of_isAlpha hc
  · decide

/-- A run of ASCII characters takes as many bytes. -/
theorem inBytes_takeWhile {test : Char → Bool} (htest : ∀ c, test c = true → IsAscii c)
    (kind : TokenKind) (rest : Text) :
    (Reading.closed kind (rest.takeWhile test).length).inBytes rest =
      .closed kind (rest.takeWhile test).length := by
  have hpre := List.takeWhile_prefix (l := rest) test
  apply inBytes_of_isAscii kind hpre.length_le
  rw [← List.prefix_iff_eq_take.mp hpre]
  exact fun c hc => htest c (List.all_eq_true.mp List.all_takeWhile c hc)

/-- An operator is a front of ASCII characters. -/
theorem operatorAt?_eq_some {op : Text} {c : Char} {rest : Text}
    (hop : operatorAt? (c :: rest) = some op) :
    op.length - 1 ≤ rest.length ∧ ∀ d ∈ rest.take (op.length - 1), IsAscii d := by
  rw [operatorAt?] at hop
  have hfront := List.find?_some hop
  have hascii := isAscii_operators op (List.mem_of_find?_eq_some hop)
  cases op with
  | nil => exact ⟨Nat.zero_le _, List.forall_mem_nil _⟩
  | cons first tail =>
    obtain ⟨-, behind, rfl⟩ := List.cons_prefix_cons.mp (List.isPrefixOf_iff_prefix.mp hfront)
    simp only [List.length_cons, Nat.add_sub_cancel, List.length_append]
    refine ⟨Nat.le_add_right _ _, fun d hd => ?_⟩
    rw [List.take_left] at hd
    exact hascii d (List.mem_cons_of_mem _ hd)

/-- A numeral is read among the bytes as among the characters. -/
theorem numeral_spread (hex : Bool) (rest : Text) :
    Reading.closed .number (numeralLength hex rest) =
      (Reading.closed .number (numeralLength hex rest)).inBytes rest :=
  (inBytes_of_isAscii _ (numeralLength_le hex rest) (isAscii_numeral hex rest)).symm

/-- The letter that asks for digits of base sixteen. -/
def isHexMark (c : Char) : Bool := c = 'x' || c = 'X'

/-- So is the mark of base sixteen. -/
theorem isAscii_of_isHexMark {c : Char} (hc : isHexMark c = true) : IsAscii c := by
  simp only [isHexMark, Bool.or_eq_true, decide_eq_true_eq] at hc
  rcases hc with rfl | rfl <;> decide

/-- A numeral of base sixteen is read among the bytes as among the characters. -/
theorem hexNumeral_spread {rest : Text} (hmark : rest.head?.any isHexMark = true) :
    Reading.closed .number (numeralLength true ((spread rest).drop 1) + 1) =
      (Reading.closed .number (numeralLength true (rest.drop 1) + 1)).inBytes rest := by
  cases rest with
  | nil => cases hmark
  | cons mark rest =>
    have hascii : IsAscii mark := isAscii_of_isHexMark hmark
    rw [inBytes_of_isAscii, spread_cons_of_isAscii hascii]
    · simp only [List.drop_succ_cons, List.drop_zero, numeralLength_spread]
    · exact Nat.succ_le_succ (numeralLength_le true rest)
    · simp only [List.drop_succ_cons, List.drop_zero, List.take_succ_cons]
      exact List.forall_mem_cons.mpr ⟨hascii, isAscii_numeral true rest⟩

/-- A token that begins with an ASCII character is read among the bytes as among the
characters. -/
theorem read_spread (memory : Memory) {c : Char} (hc : IsAscii c) (rest : Text) :
    read memory c (spread rest) = (read memory c rest).inBytes rest := by
  have hdash : (spread rest).head? = some '-' ↔ rest.head? = some '-' :=
    head?_spread (by decide) rest
  have hhex : (spread rest).head?.any (fun x => x = 'x' || x = 'X') =
      rest.head?.any fun x => x = 'x' || x = 'X' :=
    any_head?_spread (fun _ => isAscii_of_isHexMark) rest
  have hwhole : operatorAt? (c :: spread rest) = operatorAt? (c :: rest) := by
    rw [← spread_cons_of_isAscii hc, operatorAt?_spread]
  unfold read
  simp only [hdash, longOpen?_spread, any_head?_spread fun _ => isAscii_of_isDigit, hhex, hwhole,
    takeWhile_spread fun _ => isAscii_of_isSpace, takeWhile_spread fun _ => isAscii_of_isNamePart,
    numeralLength_spread]
  split
  · exact (inBytes_takeWhile (fun _ => isAscii_of_isSpace) _ _).symm
  split
  · rename_i hcomment
    simp only [Bool.and_eq_true, decide_eq_true_eq] at hcomment
    exact readComment_spread hcomment.2
  split
  · rename_i level hlevel
    split at hlevel
    · exact readLong_spread .string level (lt_of_longOpen? hlevel) (isAscii_of_longOpen? hlevel)
    · cases hlevel
  split
  · simp only [quotedLength_spread hc]
    rfl
  split
  · split
    · rename_i hmark
      simp only [Bool.and_eq_true] at hmark
      exact hexNumeral_spread hmark.2
    · exact numeral_spread false rest
  split
  · exact (inBytes_takeWhile (fun _ => isAscii_of_isNamePart) _ _).symm
  split
  · rename_i op hop
    obtain ⟨hle, hascii⟩ := operatorAt?_eq_some hop
    exact (inBytes_of_isAscii _ hle hascii).symm
  · rfl

/-- No operator begins with any other character. -/
theorem operatorAt?_of_not_isAscii {c : Char} (hc : ¬ IsAscii c) (rest : Text) :
    operatorAt? (c :: rest) = none := by
  rw [operatorAt?, List.find?_eq_none]
  intro op hop hpre
  have hne : ∀ op ∈ operators, op ≠ [] := by decide
  obtain ⟨first, tail, rfl⟩ := List.exists_cons_of_ne_nil (hne op hop)
  have hfirst := isAscii_operators _ hop first (List.mem_cons_self ..)
  rw [List.isPrefixOf_iff_prefix, List.cons_prefix_cons] at hpre
  exact hc (hpre.1 ▸ hfirst)

/-- Any other character is a token of its own. -/
theorem read_of_not_isAscii (memory : Memory) {c : Char} (hc : ¬ IsAscii c) (rest : Text) :
    read memory c rest = .closed .identifier 0 := by
  have hne : ∀ mark : Char, IsAscii mark → c ≠ mark := fun mark hmark heq => hc (heq ▸ hmark)
  have hspace : isSpace c = false := eq_false_of_not_isAscii (fun _ => isAscii_of_isSpace) hc
  have hdigit : c.isDigit = false := eq_false_of_not_isAscii (fun _ => isAscii_of_isDigit) hc
  have hname : isNameStart c = false :=
    eq_false_of_not_isAscii (fun _ => isAscii_of_isNameStart) hc
  simp [read, hspace, hdigit, hname, hne '-' (by decide), hne '[' (by decide), hne '"' (by decide),
    hne '\'' (by decide), hne '.' (by decide), operatorAt?_of_not_isAscii hc]

/-- Reading a token among the bytes finds the token that is read among the characters. -/
theorem readBytes?_toUtf8 (memory : Memory) (c : Char) (rest : Text) : ∃ first others more,
    Text.toUtf8 (c :: rest) = first :: others ∧
      readBytes? memory first others =
        some ⟨(read memory c rest).kind, more, (read memory c rest).state⟩ ∧
      more + 1 = Text.utf8Length ((c :: rest).take ((read memory c rest).more + 1)) := by
  by_cases hc : IsAscii c
  · have hwidth : Text.utf8Width c = 1 := if_pos hc
    refine ⟨UInt8.ofNat c.toNat, Text.toUtf8 rest, ((read memory c rest).inBytes rest).more,
      ?_, ?_, ?_⟩
    · rw [Text.toUtf8_cons, utf8Char_of_isAscii hc, List.cons_append, List.nil_append]
    · have hfirst : (UInt8.ofNat c.toNat).toNat < 0x80 := by
        rw [← toNat_ofByte, ofByte_of_isAscii hc]
        exact hc
      rw [readBytes?, if_pos hfirst, ofByte_of_isAscii hc]
      exact congrArg some (read_spread memory hc rest)
    · rw [List.take_succ_cons, Text.utf8Length, hwidth, Nat.add_comm]
      rfl
  · obtain ⟨first, others, hbytes, hread⟩ := Text.readChar_utf8Char c
    have hwidth := Text.length_utf8Char c
    have hfirst : ¬ first.toNat < 0x80 :=
      not_isAscii_of_mem hc first (by rw [hbytes]; exact List.mem_cons_self ..)
    refine ⟨first, others ++ Text.toUtf8 rest, others.length, ?_, ?_, ?_⟩
    · rw [Text.toUtf8_cons, hbytes, List.cons_append]
    · rw [readBytes?, if_neg hfirst, hread, read_of_not_isAscii memory hc]
      rfl
    · rw [read_of_not_isAscii memory hc]
      simpa [Reading.closed, Text.utf8Length, hbytes] using hwidth

/-- The bytes of a rest of a line are cut into the tokens of its characters. -/
theorem tokensFromBytes?_toUtf8 (memory : Memory) (state : LineState) (text : Text) :
    tokensFromBytes? memory state (Text.toUtf8 text) = some (tokensFrom memory state text) := by
  fun_induction tokensFrom memory state text with
  | case1 => simp [tokensFromBytes?]
  | case2 memory state c rest reading token scan ih =>
    obtain ⟨first, others, more, hbytes, hread, hmore⟩ := readBytes?_toUtf8 memory c rest
    have hcut := cut?_toUtf8 (reading.more + 1) (c :: rest)
    rw [← hmore, hbytes] at hcut
    have hdrop : others.drop more = Text.toUtf8 (rest.drop reading.more) := by
      simpa using drop_of_cut? hcut
    simp only [reading] at hcut hdrop
    rw [hbytes, tokensFromBytes?]
    simp only [hread, hcut, hdrop, List.take_succ_cons]
    exact congrArg (Option.map _) ih

/-- The bytes of a line are cut into the tokens of its characters, whatever is open at its
start. -/
theorem scanBytes?_toUtf8 (line : Text) (state : LineState) :
    scanBytes? (Text.toUtf8 line) state = some (scan line state) := by
  have hlong : ∀ (form : LongForm) (level : Nat),
      continueLongBytes? form level (Text.toUtf8 line) = some (continueLong form level line) := by
    intro form level
    have hclose := longClose?_spread level line
    unfold continueLongBytes? continueLong
    rw [spread] at hclose
    rw [hclose]
    cases longClose? level line with
    | some length =>
      simp only [Option.map_some, cut?_toUtf8, tokensFromBytes?_toUtf8]
    | none => simp only [Option.map_none, Text.ofUtf8?_toUtf8, Option.map_some]
  cases state with
  | code => exact tokensFromBytes?_toUtf8 _ _ _
  | longComment level => exact hlong _ _
  | longString level => exact hlong _ _

/-! ## Spans over the whole line -/

/-- An offset in bytes at which a character of the line begins, or the line ends. -/
def IsBoundary (line : Text) (offset : Nat) : Prop :=
  ∃ front, front <+: line ∧ Text.utf8Length front = offset

/-- The text of some bytes of a line, if these are whole characters. -/
def slice? (line : Text) (span : Span) : Option Text :=
  Text.ofUtf8? (((Text.toUtf8 line).drop span.start).take span.length)

/-- Spans that lie end to end over a line, between its characters, and end with the empty span
that ends every line. -/
structure Partitions (line : Text) (spans : List Span) : Prop where
  starts : spans.head?.map Span.start = some 0
  adjacent : spans.IsChain fun span next => next.start = span.start + span.length
  ends : ∃ front, spans = front ++ [⟨.lineEnd, Text.utf8Length line, 0⟩] ∧
    ∀ span ∈ front, span.kind ≠ .lineEnd ∧ 0 < span.length
  aligned : ∀ span ∈ spans,
    IsBoundary line span.start ∧ IsBoundary line (span.start + span.length)

/-- No token with a character in it is the end of the line. -/
theorem read_kind_ne (memory : Memory) (c : Char) (rest : Text) :
    (read memory c rest).kind ≠ .lineEnd := by
  have hform := read_formed memory c rest
  generalize read memory c rest = reading at hform ⊢
  cases hform with
  | enclosed hkind =>
    intro hend
    rw [hend] at hkind
    exact absurd hkind (by decide)
  | name =>
    intro hend
    have hmem := nameKind_mem memory (c :: rest.takeWhile isNamePart)
    rw [show memory.nameKind (c :: rest.takeWhile isNamePart) = .lineEnd from hend] at hmem
    exact absurd hmem (by decide)
  | _ => nofun

/-- Tokens of a rest of a line are the end of the line and others with text in front. -/
theorem tokensFrom_ends (memory : Memory) (state : LineState) (text : Text) : ∃ front,
    (tokensFrom memory state text).tokens = front ++ [⟨.lineEnd, []⟩] ∧
      ∀ token ∈ front, token.kind ≠ .lineEnd ∧ token.text ≠ [] := by
  fun_induction tokensFrom memory state text with
  | case1 => exact ⟨[], rfl, List.forall_mem_nil _⟩
  | case2 memory state c rest reading token scan ih =>
    obtain ⟨front, htokens, hfront⟩ := ih
    refine ⟨token :: front, by rw [List.cons_append, ← htokens], ?_⟩
    exact List.forall_mem_cons.mpr
      ⟨⟨read_kind_ne memory c rest, List.cons_ne_nil _ _⟩, hfront⟩

/-- Tokens of a line are the end of the line and others with text in front. -/
theorem scan_ends (line : Text) (state : LineState) : ∃ front,
    (scan line state).tokens = front ++ [⟨.lineEnd, []⟩] ∧
      ∀ token ∈ front, token.kind ≠ .lineEnd ∧ token.text ≠ [] := by
  have hlong : ∀ (form : LongForm) (level : Nat), form.kind ≠ .lineEnd → ∃ front,
      (continueLong form level line).tokens = front ++ [⟨.lineEnd, []⟩] ∧
        ∀ token ∈ front, token.kind ≠ .lineEnd ∧ token.text ≠ [] := by
    intro form level hkind
    unfold continueLong
    split
    · rename_i length hclose
      obtain ⟨front, htokens, hfront⟩ := tokensFrom_ends
        (Memory.start.after ⟨form.kind, line.take length⟩) .code (line.drop length)
      refine ⟨⟨form.kind, line.take length⟩ :: front, by rw [List.cons_append, ← htokens], ?_⟩
      refine List.forall_mem_cons.mpr ⟨⟨hkind, fun hempty => ?_⟩, hfront⟩
      have hpos := longClose?_pos hclose
      have hle := longClose?_le hclose
      have hlength := congrArg List.length hempty
      simp only [List.length_take, List.length_nil] at hlength
      omega
    · unfold withFront
      split
      · exact ⟨[], rfl, nofun⟩
      · rename_i hne
        refine ⟨[⟨form.kind, line⟩], rfl, ?_⟩
        simpa [hkind] using hne
  cases state with
  | code => exact tokensFrom_ends _ _ _
  | longComment level => exact hlong .comment level nofun
  | longString level => exact hlong .string level nofun

/-- A span has its category and its length from a token. -/
theorem exists_token_of_mem_spansFrom {start : Nat} {tokens : List Token} {span : Span}
    (hspan : span ∈ LineScan.spansFrom start tokens) :
    ∃ token ∈ tokens, span.kind = token.kind ∧ span.length = Text.utf8Length token.text := by
  induction tokens generalizing start with
  | nil => cases hspan
  | cons token tokens ih =>
    rcases List.mem_cons.mp hspan with rfl | hspan
    · exact ⟨token, List.mem_cons_self .., rfl, rfl⟩
    · obtain ⟨other, hother, htold⟩ := ih hspan
      exact ⟨other, List.mem_cons_of_mem _ hother, htold⟩

/-- Each span starts where the one before it ends. -/
theorem isChain_spansFrom (start : Nat) (tokens : List Token) :
    (LineScan.spansFrom start tokens).IsChain fun span next =>
      next.start = span.start + span.length := by
  induction tokens generalizing start with
  | nil => exact .nil
  | cons token tokens ih =>
    cases tokens with
    | nil => exact .singleton _
    | cons next tokens => exact .cons_cons rfl (ih _)

/-- Spans of tokens that cover a rest of a line lie between its characters, and the bytes of
each are the text of its token. -/
theorem spansFrom_aligned {line : Text} (before : Text) {tokens : List Token}
    (hline : line = before ++ (tokens.map Token.text).flatten) :
    (∀ span ∈ LineScan.spansFrom (Text.utf8Length before) tokens,
        IsBoundary line span.start ∧ IsBoundary line (span.start + span.length)) ∧
      (LineScan.spansFrom (Text.utf8Length before) tokens).map (slice? line) =
        tokens.map fun token => some token.text := by
  induction tokens generalizing before with
  | nil => exact ⟨nofun, rfl⟩
  | cons token tokens ih =>
    have hrest : line = (before ++ token.text) ++ (tokens.map Token.text).flatten := by
      rw [hline, List.map_cons, List.flatten_cons, List.append_assoc]
    obtain ⟨haligned, hslices⟩ := ih _ hrest
    rw [Text.utf8Length_append] at haligned hslices
    have hfirst : slice? line ⟨token.kind, Text.utf8Length before, Text.utf8Length token.text⟩ =
        some token.text := by
      simp only [slice?]
      rw [hrest, List.append_assoc, Text.toUtf8_append, Text.toUtf8_append,
        ← Text.length_toUtf8 before, List.drop_left, ← Text.length_toUtf8 token.text,
        List.take_left, Text.ofUtf8?_toUtf8]
    refine ⟨List.forall_mem_cons.mpr ⟨⟨?_, ?_⟩, haligned⟩, ?_⟩
    · exact ⟨before, hline ▸ List.prefix_append _ _, rfl⟩
    · exact ⟨before ++ token.text, hrest ▸ List.prefix_append _ _, Text.utf8Length_append _ _⟩
    · rw [LineScan.spansFrom, List.map_cons, List.map_cons, hfirst, hslices]

/-- Every line, whatever is open at its start, is cut into tokens: no cut of its bytes falls
beyond its end or inside a character, the spans partition it, the bytes of each span are the
text of its token, and these texts together are the line. -/
theorem scan_partitions (line : Text) (state : LineState) :
    scanBytes? (Text.toUtf8 line) state = some (scan line state) ∧
      Partitions line (scan line state).spans ∧
      (scan line state).spans.map (slice? line) =
        (scan line state).tokens.map (fun token => some token.text) ∧
      ((scan line state).tokens.map Token.text).flatten = line := by
  have hcover := flatten_scan line state
  obtain ⟨front, htokens, hfront⟩ := scan_ends line state
  obtain ⟨haligned, hslices⟩ := spansFrom_aligned [] hcover.symm
  refine ⟨scanBytes?_toUtf8 line state, ⟨?_, isChain_spansFrom 0 _, ?_, haligned⟩, hslices, hcover⟩
  · rw [LineScan.spans, htokens]
    cases front <;> rfl
  · have hbytes : Token.bytes front = Text.utf8Length line := by
      rw [← hcover, htokens]
      simp [Token.bytes]
    refine ⟨LineScan.spansFrom 0 front, ?_, ?_⟩
    · rw [LineScan.spans, htokens, LineScan.spansFrom_append, hbytes, Nat.zero_add]
      rfl
    · intro span hspan
      obtain ⟨token, htoken, hkind, hlength⟩ := exists_token_of_mem_spansFrom hspan
      obtain ⟨hnotEnd, hne⟩ := hfront token htoken
      obtain ⟨c, rest, htext⟩ := List.exists_cons_of_ne_nil hne
      have hwidth := Text.utf8Width_pos c
      rw [hkind, hlength, htext, Text.utf8Length]
      exact ⟨hnotEnd, by omega⟩

end LuaAssist.Lexer

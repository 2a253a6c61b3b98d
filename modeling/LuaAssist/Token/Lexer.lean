import LuaAssist.Token
import LuaAssist.Words

/-!
# Cutting a line into tokens

Every step reads one character and says how many more belong to its token, so a
step always shortens the line and the tokens partition it. Names and blanks are
ASCII; a character that starts nothing else is an identifier of its own.
-/

namespace LuaAssist.Lexer

/-- Blanks between tokens: space, tab, line feed, carriage return and form feed. -/
def isSpace (c : Char) : Bool :=
  c = ' ' || c = '\t' || c = '\n' || c = '\r' || c = '\x0c'

/-- An ASCII letter or an underscore. -/
def isNameStart (c : Char) : Bool := c.isAlpha || c = '_'

/-- An ASCII letter, an ASCII digit or an underscore. -/
def isNamePart (c : Char) : Bool := c.isAlphanum || c = '_'

/-- An ASCII digit in base sixteen. -/
def isHexDigit (c : Char) : Bool :=
  c.isDigit || ('a' ≤ c && c ≤ 'f') || ('A' ≤ c && c ≤ 'F')

/-- The level of a long bracket whose `[` has just been read: any number of `=`, then `[`. -/
def longOpen? (rest : Text) : Option Nat :=
  match rest.dropWhile (· = '=') with
  | '[' :: _ => some (rest.takeWhile (· = '=')).length
  | _ => none

/-- A closing long bracket of the given level at the front of the text. -/
def longCloses (level : Nat) : Text → Bool
  | ']' :: rest =>
    (rest.takeWhile (· = '=')).length = level && (rest.dropWhile (· = '=')).head? = some ']'
  | _ => false

/-- The characters up to the end of the first closing long bracket of the given level. -/
def longClose? (level : Nat) : Text → Option Nat
  | [] => none
  | c :: rest =>
    if longCloses level (c :: rest) then some (level + 2)
    else (longClose? level rest).map (· + 1)

/-- The characters of a quoted string after its opening quote. A backslash keeps the next
character from ending it; unclosed, it takes the whole rest. -/
def quotedLength (quote : Char) : Text → Nat
  | [] => 0
  | '\\' :: _ :: rest => quotedLength quote rest + 2
  | c :: rest => if c = quote then 1 else quotedLength quote rest + 1

/-- The letter that starts an exponent: `p` in base sixteen, else `e`. -/
def isExponentMark (hex : Bool) (c : Char) : Bool :=
  if hex then c = 'p' || c = 'P' else c = 'e' || c = 'E'

/-- A digit of the base, or the point. -/
def isNumeralPart (hex : Bool) (c : Char) : Bool :=
  c.isDigit || c = '.' || (hex && isHexDigit c)

/-- The characters of a numeral. A sign counts only directly after the exponent's letter. -/
def numeralLength (hex : Bool) : Text → Nat
  | [] => 0
  | [c] => if isExponentMark hex c || isNumeralPart hex c then 1 else 0
  | c :: d :: rest =>
    if isExponentMark hex c then
      if d = '+' || d = '-' then numeralLength hex rest + 2
      else numeralLength hex (d :: rest) + 1
    else if isNumeralPart hex c then numeralLength hex (d :: rest) + 1
    else 0

/-- The operators, longer ones before shorter ones. -/
def operators : List Text :=
  ["...".toList, "..".toList, "==".toList, "~=".toList, "<=".toList, ">=".toList,
   "//".toList, "::".toList, "<<".toList, ">>".toList, "+".toList, "-".toList, "*".toList,
   "/".toList, "%".toList, "^".toList, "#".toList, "&".toList, "~".toList, "|".toList,
   "<".toList, ">".toList, "=".toList, "(".toList, ")".toList, ['\x7b'], ['\x7d'],
   "[".toList, "]".toList, ";".toList, ":".toList, ",".toList, ".".toList]

/-- The first operator of the table that the text starts with. -/
def operatorAt? (text : Text) : Option Text := operators.find? fun op => op.isPrefixOf text

/-- What the tokens so far say about the next name. -/
structure Memory where
  /-- The names of a `local` statement are being listed. -/
  inLocalList : Bool
  /-- The last token with meaning is `.` or `:`. -/
  afterAccessor : Bool
  deriving DecidableEq, Repr

/-- The memory at the start of a line. -/
def Memory.start : Memory := ⟨false, false⟩

/-- The category of a name. -/
def Memory.nameKind (memory : Memory) (word : Text) : TokenKind :=
  if Words.isReserved word then .keyword
  else if Words.isMetamethod word then .metamethod
  else if word = "self".toList || memory.inLocalList then .localName
  else if memory.afterAccessor then .field
  else .identifier

/-- The memory after a token. `local` opens a list of names, which local names, commas,
literals and trivia continue and every other token ends. -/
def Memory.after (memory : Memory) (token : Token) : Memory where
  inLocalList := match token.kind with
    | .keyword => token.text = "local".toList
    | .operator => memory.inLocalList && token.text = ",".toList
    | .identifier | .field | .metamethod => false
    | _ => memory.inLocalList
  afterAccessor :=
    if token.kind.isTrivia then memory.afterAccessor
    else token.kind = .operator && (token.text = ".".toList || token.text = ":".toList)

/-- How a token goes on behind its first character: its category, the number of further
characters, and what stays open behind it. -/
structure Reading where
  kind : TokenKind
  more : Nat
  state : LineState
  deriving DecidableEq, Repr

/-- A token that leaves nothing open. -/
def Reading.closed (kind : TokenKind) (more : Nat) : Reading := ⟨kind, more, .code⟩

/-- The category of a long token and the state in which it stays open. -/
structure LongForm where
  kind : TokenKind
  state : Nat → LineState

/-- Long strings. -/
def LongForm.string : LongForm := ⟨.string, .longString⟩

/-- Long comments. -/
def LongForm.comment : LongForm := ⟨.blockComment, .longComment⟩

/-- A long token whose body starts `skip` characters on. It ends with its closing bracket,
or stays open over the whole rest. -/
def readLong (form : LongForm) (level skip : Nat) (rest : Text) : Reading :=
  match longClose? level (rest.drop skip) with
  | some length => .closed form.kind (skip + length)
  | none => ⟨form.kind, rest.length, form.state level⟩

/-- A token that starts with two dashes, of which `rest` follows the first. -/
def readComment (rest : Text) : Reading :=
  match rest.drop 1 with
  | '[' :: body =>
    match longOpen? body with
    | some level => readLong .comment level (level + 3) rest
    | none => .closed .comment rest.length
  | _ => .closed .comment rest.length

/-- A token that starts with the given character: which one it is follows from that
character and what comes behind it. -/
def read (memory : Memory) (c : Char) (rest : Text) : Reading :=
  if isSpace c then .closed .whitespace (rest.takeWhile isSpace).length
  else if c = '-' && rest.head? = some '-' then readComment rest
  else match (if c = '[' then longOpen? rest else none) with
  | some level => readLong .string level (level + 1) rest
  | none =>
    if c = '"' || c = '\'' then .closed .string (quotedLength c rest)
    else if c.isDigit || (c = '.' && rest.head?.any Char.isDigit) then
      if c = '0' && rest.head?.any (fun x => x = 'x' || x = 'X') then
        .closed .number (numeralLength true (rest.drop 1) + 1)
      else .closed .number (numeralLength false rest)
    else if isNameStart c then
      let tail := rest.takeWhile isNamePart
      .closed (memory.nameKind (c :: tail)) tail.length
    else match operatorAt? (c :: rest) with
      | some op => .closed .operator (op.length - 1)
      | none => .closed .identifier 0

/-- The tokens of the rest of a line and the state behind it. A token left open reaches
the end of the line, so the state of the last token is the state behind the line. -/
def tokensFrom (memory : Memory) (state : LineState) : Text → LineScan
  | [] => ⟨[⟨.lineEnd, []⟩], state⟩
  | c :: rest =>
    let reading := read memory c rest
    let token : Token := ⟨reading.kind, c :: rest.take reading.more⟩
    let scan := tokensFrom (memory.after token) reading.state (rest.drop reading.more)
    ⟨token :: scan.tokens, scan.state⟩
  termination_by text => text.length
  decreasing_by simp only [List.length_drop, List.length_cons]; omega

/-- A token with text in front of a scan; without text there is no token. -/
def withFront (kind : TokenKind) (text : Text) (scan : LineScan) : LineScan :=
  if text.isEmpty then scan else ⟨⟨kind, text⟩ :: scan.tokens, scan.state⟩

/-- A line at whose start a long token is open: it goes on until it closes, and code
follows; without a close it takes the whole line. -/
def continueLong (form : LongForm) (level : Nat) (line : Text) : LineScan :=
  match longClose? level line with
  | some length =>
    let token : Token := ⟨form.kind, line.take length⟩
    let scan := tokensFrom (Memory.start.after token) .code (line.drop length)
    ⟨token :: scan.tokens, scan.state⟩
  | none => withFront form.kind line ⟨[⟨.lineEnd, []⟩], form.state level⟩

/-- Cuts a line into tokens, given what is open at its start. Every line has a scan. -/
def scan (line : Text) : LineState → LineScan
  | .code => tokensFrom .start .code line
  | .longComment level => continueLong .comment level line
  | .longString level => continueLong .string level line

end LuaAssist.Lexer

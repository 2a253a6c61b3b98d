import LuaAssist.Completion
import LuaAssist.FunctionSearch
import LuaAssist.Indent.Typing
import LuaAssist.Session
import LuaAssist.Token.Highlight

/-!
# What a session answers

The questions of an editor about open documents: completion, parameter hints, tokens for
display, symbols, indentation and diagnostics. Every answer comes with the session that
has read what the answer needed.
-/

namespace LuaAssist.Session

/-! ## Functions -/

/-- The functions of an open document: those that it defines, and those that it can use. A
document without a path can use its own and the standard library. -/
def functions (tree : FileTree) (uri : Uri) (text : Text) (session : Session) :
    List Signature × List Signature × Session :=
  let (own, index) := session.index.textSignaturesOf text
  match uri.toPath? with
  | some path =>
    let (visible, index) := index.textVisible tree path text
    (own, visible, { session with index := index })
  | none => (own, own ++ index.builtins, { session with index := index })

/-! ## Completion -/

/-- What an editor shows beside a candidate. -/
inductive ItemKind where
  | method
  | function
  | variable
  | keyword
  deriving DecidableEq, Repr

/-- How a candidate is shown. A function behind a colon is a method. -/
def itemKind (category : Category) (place : Place) : ItemKind :=
  match category with
  | .variable => .variable
  | .function => if place = .method then .method else .function
  | .keyword => .keyword
  | .metamethod => .method

/-- A number in base ten with zeros in front of it, at least five digits. -/
def rank (index : Nat) : Text :=
  let digits := (Nat.repr index).toList
  List.replicate (5 - digits.length) '0' ++ digits

/-- A candidate as an editor needs it. -/
structure Item where
  label : Text
  kind : ItemKind
  /-- Editors sort by this text, which keeps the order of the candidates. -/
  sortText : Text
  edit : Document.Edit
  deriving DecidableEq, Repr

/-- The candidates at a place. -/
structure Items where
  /-- The editor shall ask again while typing goes on. -/
  incomplete : Bool
  items : List Item
  deriving DecidableEq, Repr

/-- Candidates numbered from an index on; each replaces the range by its text. -/
def itemsFrom (place : Place) (range : Range) (index : Nat) : List Candidate → List Item
  | [] => []
  | candidate :: rest =>
    ⟨candidate.text, itemKind candidate.category place, rank index, ⟨range, candidate.text⟩⟩ ::
      itemsFrom place range (index + 1) rest

/-- The candidates at a position of an open document. -/
def completion (tree : FileTree) (uri : Uri) (position : Position) (reason : Trigger)
    (session : Session) : Option Items × Session :=
  match session.document? uri with
  | none => (none, session)
  | some document =>
    let text := document.text
    let (own, visible, session) := session.functions tree uri text
    let (words, store) := session.store.words tree
    let (members, store) := store.members tree
    let (calls, store) := store.calls tree
    let sources : Sources := ⟨own, visible, words, members, calls⟩
    let found := Completion.complete? text (Document.offsetOf text position) reason
      session.config.whenIdle sources
    (found.map fun completion =>
      let range : Range := ⟨Document.positionOf text completion.insertOffset, position⟩
      ⟨session.config.whenIdle, itemsFrom completion.place range 0 completion.candidates⟩,
    { session with store := store })

/-! ## Hints -/

/-- A function in a hint, with the UTF-16 columns of its parameters. -/
structure HelpLabel where
  label : Text
  parameters : List (Nat × Nat)
  deriving DecidableEq, Repr

/-- The functions that a call may mean, and the index of the argument at the cursor. -/
structure Help where
  labels : List HelpLabel
  active : Option Nat
  deriving DecidableEq, Repr

/-- A function in a hint as an editor shows it. -/
def helpLabel (signature : HintSignature) : HelpLabel :=
  let label := signature.label
  ⟨label, signature.parameterRanges.map fun (start, stop) =>
    (Document.utf16Column label start, Document.utf16Column label stop)⟩

/-- The hint at a position of an open document. -/
def signatureHelp (tree : FileTree) (uri : Uri) (position : Position) (session : Session) :
    Option Help × Session :=
  match session.document? uri with
  | none => (none, session)
  | some document =>
    let (_, visible, session) := session.functions tree uri document.text
    let (calls, store) := session.store.calls tree
    let hint := Hint.find? document.text (Document.offsetOf document.text position) visible calls
    (hint.map fun found => ⟨found.signatures.map helpLabel, found.active⟩,
      { session with store := store })

/-! ## Tokens for display -/

/-- A token as an editor decodes it, by its distance from the token before. -/
structure DisplayToken where
  /-- How many lines below the token before. -/
  lines : Nat
  /-- The columns behind the start of the token before, or behind the start of the line. -/
  columns : Nat
  length : Nat
  kind : TokenKind
  deriving DecidableEq, Repr

/-- A token at its place, in UTF-16 columns. -/
structure PlacedToken where
  line : Nat
  column : Nat
  length : Nat
  kind : TokenKind
  deriving DecidableEq, Repr

/-- The tokens of a line that are shown: those with text that are not blank. -/
def placedInLine (number : Nat) (line : Text) (scan : LineScan) : List PlacedToken :=
  (scan.spans.filter fun span =>
    0 < span.length && span.kind ≠ .whitespace && span.kind ≠ .lineEnd).map fun span =>
      let start := Document.utf16Column line span.start
      ⟨number, start, Document.utf16Column line (span.start + span.length) - start, span.kind⟩

/-- The shown tokens of numbered lines. -/
def placedFrom (number : Nat) : List (Text × LineScan) → List PlacedToken
  | [] => []
  | (line, scan) :: rest => placedInLine number line scan ++ placedFrom (number + 1) rest

/-- The shown tokens of a text. -/
def placedTokens (text : Text) : List PlacedToken :=
  placedFrom 0 ((Text.lines text).zip (Highlight.document text))

/-- Tokens by their distances, behind a token at the given place. -/
def distancesFrom (line column : Nat) : List PlacedToken → List DisplayToken
  | [] => []
  | token :: rest =>
    ⟨token.line - line, if token.line = line then token.column - column else token.column,
      token.length, token.kind⟩ :: distancesFrom token.line token.column rest

/-- The tokens of an open document. -/
def displayTokens (uri : Uri) (session : Session) : Option (List DisplayToken) :=
  (session.document? uri).map fun document => distancesFrom 0 0 (placedTokens document.text)

/-! ## Symbols -/

/-- A function as an editor lists it. -/
structure Symbol where
  name : Text
  isMethod : Bool
  uri : Uri
  /-- The line, counted from zero. -/
  line : Nat
  container : Option Text
  deriving DecidableEq, Repr

/-- A found function in the list of an editor. -/
def symbol (uri : Uri) (found : FunctionSearch.Found) : Symbol :=
  ⟨found.label, found.signature.relation = .method, uri, found.signature.line - 1,
    found.signature.owner⟩

/-- The functions of a document that answer a query. -/
def symbolsOf (query : Text) (uri : Uri) (document : OpenDocument) (session : Session) :
    List Symbol × Session :=
  let (own, index) := session.index.textSignaturesOf document.text
  ((FunctionSearch.search own query).map (symbol uri), { session with index := index })

/-- The functions of an open document. -/
def documentSymbols (uri : Uri) (session : Session) : Option (List Symbol) × Session :=
  match session.document? uri with
  | none => (none, session)
  | some document =>
    let (symbols, session) := session.symbolsOf [] uri document
    (some symbols, session)

/-- The functions of some documents that answer a query. -/
def symbolsOfAll (query : Text) (session : Session) :
    List (Uri × OpenDocument) → List Symbol × Session
  | [] => ([], session)
  | (uri, document) :: rest =>
    let (here, session) := session.symbolsOf query uri document
    let (others, session) := symbolsOfAll query session rest
    (here ++ others, session)

/-- The functions of all open documents that answer a query. -/
def workspaceSymbols (query : Text) (session : Session) : List Symbol × Session :=
  session.symbolsOfAll query session.inOrder

/-! ## Indentation -/

/-- The edit after something was typed on a line of an open document. Of the size of a level
the lower 32 bits count. -/
def onTypeEdit (uri : Uri) (line : Nat) (typed : Text) (tabSize : Nat) (spaces : Bool)
    (session : Session) : Option Document.Edit := do
  let document ← session.document? uri
  Indent.edit? document.text line typed ⟨session.config.indentSize % 0x100000000, tabSize, spaces⟩

/-! ## Diagnostics -/

/-- A report about a place of a document. -/
structure Diagnostic where
  range : Range
  severity : Severity
  message : Text
  deriving DecidableEq, Repr

/-- The report about a reference that leads nowhere. -/
def unresolved (text : Text) (severity : Severity) (reference : Reference) : Diagnostic :=
  let line := Document.lineText text reference.line
  let stop := reference.column + Text.utf8Length reference.name
  { range := ⟨⟨reference.line, Document.utf16Column line reference.column⟩,
      ⟨reference.line, Document.utf16Column line stop⟩⟩
    severity := severity
    message := "Module '".toList ++ reference.name ++ "' not found".toList }

/-- The reports about an open document: one for each reference that leads nowhere. -/
def diagnostics (tree : FileTree) (uri : Uri) (session : Session) : List Diagnostic × Session :=
  if !session.config.diagnostics then ([], session)
  else match session.document? uri, uri.toPath? with
    | some document, some path =>
      let (found, index) := session.index.textDependencies tree path document.text
      (found.unresolved.map (unresolved document.text session.config.severity),
        { session with index := index })
    | _, _ => ([], session)

end LuaAssist.Session

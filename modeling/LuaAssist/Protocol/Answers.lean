import LuaAssist.Json
import LuaAssist.Session.Answers

/-!
# Answers in messages

How the answers of a session are written in messages to the editor. A field without a
value is left out.
-/

namespace LuaAssist.Protocol

/-- A position. -/
def position (p : Position) : Json :=
  .ofFields [("line", .ofNat p.line), ("character", .ofNat p.column)]

/-- A range. -/
def range (r : Range) : Json :=
  .ofFields [("start", position r.start), ("end", position r.stop)]

/-- An edit. -/
def edit (e : Document.Edit) : Json :=
  .ofFields [("range", range e.range), ("newText", .text e.text)]

/-- Edits, if there is one. -/
def edits (e : Option Document.Edit) : Json :=
  match e with
  | some e => .list [edit e]
  | none => .null

/-- The number of an item's kind. -/
def itemKind : Session.ItemKind → Nat
  | .method => 2
  | .function => 3
  | .variable => 6
  | .keyword => 14

/-- A candidate. -/
def item (i : Session.Item) : Json :=
  .ofFields [("label", .text i.label), ("kind", .ofNat (itemKind i.kind)),
    ("sortText", .text i.sortText), ("textEdit", edit i.edit)]

/-- The answer to a request for completion. -/
def items (answer : Option Session.Items) : Json :=
  match answer with
  | some answer =>
    .ofFields [("isIncomplete", .bool answer.incomplete), ("items", .list (answer.items.map item))]
  | none => .null

/-- A function in a hint. -/
def helpLabel (l : Session.HelpLabel) : Json :=
  .ofFields [("label", .text l.label),
    ("parameters", .list (l.parameters.map fun (start, stop) =>
      .ofFields [("label", .list [.ofNat start, .ofNat stop])]))]

/-- The answer to a request for a hint. -/
def help (answer : Option Session.Help) : Json :=
  match answer with
  | some answer =>
    .ofFields ([("signatures", .list (answer.labels.map helpLabel)), ("activeSignature", .ofNat 0)]
      ++ Json.fieldIfSome "activeParameter" .ofNat answer.active)
  | none => .null

/-- Five numbers for a token; the last would tell modifiers, which there are none of. -/
def displayToken (t : Session.DisplayToken) : List Json :=
  [t.lines, t.columns, t.length, t.kind.legendIndex, 0].map .ofNat

/-- The answer to a request for the tokens of a document. -/
def displayTokens (answer : Option (List Session.DisplayToken)) : Json :=
  match answer with
  | some tokens => .ofFields [("data", .list (tokens.flatMap displayToken))]
  | none => .null

/-- A symbol. It has a line, but no extent. -/
def symbol (s : Session.Symbol) : Json :=
  .ofFields ([("name", .text s.name), ("kind", .ofNat (if s.isMethod then 6 else 12)),
    ("location", .ofFields [("uri", .text s.uri.render),
      ("range", range ⟨⟨s.line, 0⟩, ⟨s.line, 0⟩⟩)])] ++
    Json.fieldIfSome "containerName" .text s.container)

/-- Symbols. -/
def symbols (answer : List Session.Symbol) : Json := .list (answer.map symbol)

/-- The answer to a request for the symbols of a document. -/
def documentSymbols (answer : Option (List Session.Symbol)) : Json :=
  match answer with
  | some found => symbols found
  | none => .null

/-- The name under which reports are published. -/
def sourceName : String := "luasense"

/-- A report. -/
def diagnostic (d : Session.Diagnostic) : Json :=
  .ofFields [("range", range d.range), ("severity", .ofNat d.severity.code),
    ("source", .ofString sourceName), ("message", .text d.message)]

/-- Reports. -/
def diagnostics (answer : List Session.Diagnostic) : Json := .list (answer.map diagnostic)

end LuaAssist.Protocol

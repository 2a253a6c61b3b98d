import LuaAssist.Completion
import LuaAssist.Document
import LuaAssist.Protocol.Form

/-!
# Parameters of messages

What editors send with their messages, read strictly: a field that is missing or has the
wrong form makes the whole message ill-formed, and fields that are not known are passed
over. A message is brought into its plain spelling first and read from that.
-/

namespace LuaAssist.Protocol

open Form (needed optional object record listOf text word signed any bool)

/-- The value of a field that may be missing in a plain spelling. -/
def fieldIfThere? {α : Type} (json : Json) (key : String) (read : Json → Option α) :
    Option (Option α) :=
  match json.get? key with
  | none => some none
  | some value => (read value).map some

/-- The address of the document that a message is about. -/
def documentUri? (json : Json) : Option Uri := do
  uri? (← (← json.get? "textDocument").get? "uri")

/-- A position. -/
def position? (json : Json) : Option Position := do
  return ⟨← word? (← json.get? "line"), ← word? (← json.get? "character")⟩

/-- A range. -/
def range? (json : Json) : Option Range := do
  return ⟨← position? (← json.get? "start"), ← position? (← json.get? "end")⟩

/-- A position in a document. -/
structure At where
  uri : Uri
  position : Position

/-- A position in a document. -/
def at? (json : Json) : Option At := do
  return ⟨← documentUri? json, ← position? (← json.get? "position")⟩

/-! ## Completion and hints -/

/-- Why a request is sent. -/
def reasonFields : List Form.Field :=
  [needed "triggerKind" signed, optional "triggerCharacter" text]

/-- The form of a request for completion. -/
def completionForm : Form :=
  object (Form.placeFields ++ Form.partFields ++ [optional "context" (record reasonFields)])

/-- Why completion is asked for. Kinds that are not known count as a request by the user. -/
def trigger? (json : Json) : Option Trigger := do
  let kind ← signed? (← json.get? "triggerKind")
  return if kind = 2 then .character else if kind = 3 then .idle else .explicit

/-- A request for completion. -/
structure CompletionRequest where
  place : At
  reason : Trigger

/-- A request for completion; without a context the user asks. -/
def completionRequest? (json : Json) : Option CompletionRequest := do
  let plain ← completionForm json
  return ⟨← at? plain, (← fieldIfThere? plain "context" trigger?).getD .explicit⟩

/-- The form of a description. -/
def description : Form :=
  Form.either text
    (record [needed "kind" (Form.oneOf ["plaintext", "markdown"]), needed "value" text])

/-- The form of a hint that is already shown. -/
def shownHint : Form :=
  let parameter := record [needed "label" (Form.either text (Form.pairOf word)),
    optional "documentation" description]
  let signature := record [needed "label" text, optional "documentation" description,
    optional "parameters" (listOf parameter), optional "activeParameter" word]
  record [needed "signatures" (listOf signature), optional "activeSignature" word,
    optional "activeParameter" word]

/-- The form of a request for a hint. -/
def helpForm : Form :=
  object (Form.placeFields ++ [Form.workField, optional "context" (record (reasonFields ++
    [needed "isRetrigger" bool, optional "activeSignatureHelp" shownHint]))])

/-- A request for a hint. What it tells about hints that are already shown is not needed. -/
def helpRequest? (json : Json) : Option At := do at? (← helpForm json)

/-! ## Documents and symbols -/

/-- A request about a whole document. -/
def documentRequest? (json : Json) : Option Uri := do
  documentUri? (← object (Form.documentField :: Form.partFields) json)

/-- A request for the symbols that fit a text. -/
def symbolRequest? (json : Json) : Option Text := do
  (← (← object (needed "query" text :: Form.partFields) json).get? "query").text?

/-- A request for an edit while typing. -/
structure TypingRequest where
  place : At
  typed : Text
  tabSize : Nat
  spaces : Bool

/-- A request for an edit while typing. -/
def typingRequest? (json : Json) : Option TypingRequest := do
  let plain ← object (Form.placeFields ++ [needed "ch" text, needed "options" Form.layout]) json
  let options ← plain.get? "options"
  return ⟨← at? plain, ← (← plain.get? "ch").text?, ← word? (← options.get? "tabSize"),
    ← (← options.get? "insertSpaces").bool?⟩

/-! ## Notifications -/

/-- A document with its text, as it is opened. -/
structure Opening where
  uri : Uri
  version : Int
  text : Text

/-- A document that is opened. -/
def opening? (json : Json) : Option Opening := do
  let plain ← record [needed "textDocument" (record [needed "uri" Form.uri,
    needed "languageId" text, needed "version" signed, needed "text" text])] json
  let document ← plain.get? "textDocument"
  return ⟨← documentUri? plain, ← signed? (← document.get? "version"),
    ← (← document.get? "text").text?⟩

/-- A change to a text. -/
def change? (json : Json) : Option Document.Change := do
  return ⟨← fieldIfThere? json "range" range?, ← (← json.get? "text").text?⟩

/-- The changes to a document. -/
structure Changes where
  uri : Uri
  version : Int
  changes : List Document.Change

/-- The changes to a document. -/
def changes? (json : Json) : Option Changes := do
  let change := record [optional "range" Form.range, optional "rangeLength" word,
    needed "text" text]
  let plain ← record [
    needed "textDocument" (record [needed "uri" Form.uri, needed "version" signed]),
    needed "contentChanges" (listOf change)] json
  return ⟨← documentUri? plain, ← signed? (← (← plain.get? "textDocument").get? "version"),
    ← (← (← plain.get? "contentChanges").list?).mapM change?⟩

/-- The document that is closed. -/
def closing? (json : Json) : Option Uri := do documentUri? (← record [Form.documentField] json)

/-- The settings that have changed. -/
def settings? (json : Json) : Option Json := do
  (← record [needed "settings" any] json).get? "settings"

/-- The files that have changed. -/
def watched? (json : Json) : Option (List Uri) := do
  let plain ← record [needed "changes"
    (listOf (record [needed "uri" Form.uri, needed "type" signed]))] json
  (← (← plain.get? "changes").list?).mapM fun change => do uri? (← change.get? "uri")

/-! ## The first message -/

/-- What an editor can do. The names are those of its areas, and nothing more is told about
most of them than that they are there. -/
def abilities : Form :=
  let area := object []
  let areas := fun names : List String => names.map fun name => optional name area
  let workspace := object ([optional "applyEdit" bool, optional "workspaceFolders" bool,
    optional "configuration" bool] ++
    areas ["workspaceEdit", "didChangeConfiguration", "didChangeWatchedFiles", "symbol",
      "executeCommand", "semanticTokens", "codeLens", "fileOperations", "inlineValue",
      "inlayHint", "diagnostic"])
  let documents := object (areas ["synchronization", "completion", "hover", "signatureHelp",
    "references", "documentHighlight", "documentSymbol", "formatting", "rangeFormatting",
    "onTypeFormatting", "declaration", "definition", "typeDefinition", "implementation",
    "codeAction", "codeLens", "documentLink", "colorProvider", "rename", "publishDiagnostics",
    "foldingRange", "selectionRange", "linkedEditingRange", "callHierarchy", "semanticTokens",
    "moniker", "typeHierarchy", "inlineValue", "inlayHint", "diagnostic"])
  let window := object (optional "workDoneProgress" bool :: areas ["showMessage", "showDocument"])
  let general := object (optional "positionEncodings" (listOf text) ::
    areas ["regularExpressions", "markdown", "staleRequestSupport"])
  object [optional "workspace" workspace, optional "textDocument" documents,
    optional "notebookDocument" (object [needed "synchronization" area]),
    optional "window" window, optional "general" general]

/-- The form of the first message. -/
def startForm : Form :=
  record [optional "processId" word, optional "rootPath" text, optional "rootUri" Form.uri,
    optional "initializationOptions" any, needed "capabilities" abilities,
    optional "trace" (Form.oneOf ["off", "messages", "verbose"]),
    optional "workspaceFolders" (listOf (record [needed "uri" Form.uri, needed "name" text])),
    optional "clientInfo" (record [needed "name" text, optional "version" text]),
    optional "locale" text]

/-- The settings that an editor sends with its first message, if it sends any. -/
def startOptions? (json : Json) : Option (Option Json) := do
  return (← startForm json).get? "initializationOptions"

end LuaAssist.Protocol

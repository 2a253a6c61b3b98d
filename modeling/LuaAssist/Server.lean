import LuaAssist.Protocol.Answers
import LuaAssist.Protocol.Parameters
import LuaAssist.Protocol.Unserved

/-!
# The server

A server takes messages one after the other: requests, which it answers, and
notifications, which it does not. It has to be started before it serves anything, and
once it is told to shut down it only waits for the end. Whenever a document may have
become better or worse, its reports are published.
-/

namespace LuaAssist

/-- How far a server has come. -/
inductive Phase where
  /-- Nobody has started the server. -/
  | waiting
  | serving
  /-- The server has been told to shut down. -/
  | closing
  | ended
  deriving DecidableEq, Repr

/-- A message to the server. With an identifier it is a request. -/
structure Message where
  method : Text
  id : Option Json
  parameters : Option Json

/-- Why a request is refused. -/
inductive Refusal where
  /-- The server has not been started. -/
  | notStarted
  /-- The request is out of place. -/
  | outOfPlace
  /-- Nobody knows the method. -/
  | unknown (method : Text)
  /-- The method is known, but this server does not have it. -/
  | unsupported
  /-- The parameters are missing or ill-formed. -/
  | badParameters
  deriving DecidableEq, Repr

/-- What the server sends after a message. -/
structure Reply where
  response : Option Json
  notifications : List Json

/-- A server. -/
structure Server where
  phase : Phase
  session : Session

namespace Refusal

/-- The number of a refusal. -/
def code : Refusal → Int
  | .notStarted => -32002
  | .outOfPlace => -32600
  | .unknown _ => -32601
  | .unsupported => -32601
  | .badParameters => -32602

/-- The words of a refusal. Ill-formed parameters are not commented on. -/
def message? : Refusal → Option String
  | .notStarted => some "Server not initialized"
  | .outOfPlace => some "Invalid request"
  | .unknown _ => some "Method not found"
  | .unsupported => some "Method not found"
  | .badParameters => none

/-- What a refusal adds to its words. -/
def data? : Refusal → Option Json
  | .unknown method => some (.text method)
  | _ => none

/-- A refusal in a message. -/
def toJson (refusal : Refusal) : Json :=
  .ofFields ([("code", .int refusal.code)] ++
    Json.fieldIfSome "message" .ofString refusal.message? ++
    Json.fieldIfSome "data" id refusal.data?)

end Refusal

namespace Server

/-- The version of the message format. -/
def format : String × Json := ("jsonrpc", .ofString "2.0")

/-- The answer to a request. -/
def response (id : Json) (answer : Except Refusal Json) : Json :=
  match answer with
  | .ok value => .ofFields [format, ("result", value), ("id", id)]
  | .error refusal => .ofFields [format, ("error", refusal.toJson), ("id", id)]

/-- The message that publishes the reports about a document. -/
def published (uri : Uri) (reports : List Session.Diagnostic) (version : Option Int) : Json :=
  .ofFields [format, ("method", .ofString "textDocument/publishDiagnostics"),
    ("params", .ofFields ([("uri", .text uri.render),
      ("diagnostics", Protocol.diagnostics reports)] ++
      Json.fieldIfSome "version" .int version))]

/-! ## The first answer -/

/-- The server's name in messages. -/
def name : String := "luasense"

/-- The server's version. -/
def version : String := "0.1.0"

/-- Texts as a list. -/
def texts (values : List String) : Json := .list (values.map .ofString)

/-- What the server can do. -/
def capabilities : Json :=
  .ofFields [
    ("textDocumentSync", .ofNat 2),
    ("completionProvider", .ofFields [("triggerCharacters", texts [".", ":"])]),
    ("signatureHelpProvider", .ofFields [("triggerCharacters", texts ["(", ","])]),
    ("documentSymbolProvider", .bool true),
    ("workspaceSymbolProvider", .bool true),
    ("documentOnTypeFormattingProvider", .ofFields [
      ("firstTriggerCharacter", .ofString "\n"),
      ("moreTriggerCharacter", .list (Indent.electric.map fun c => .text [c]))]),
    ("semanticTokensProvider", .ofFields [
      ("legend", .ofFields [
        ("tokenTypes", texts (TokenKind.all.map TokenKind.legendName)),
        ("tokenModifiers", .list [])]),
      ("full", .bool true)])]

/-- The answer to the first request. -/
def greeting : Json :=
  .ofFields [("capabilities", capabilities),
    ("serverInfo", .ofFields [("name", .ofString name), ("version", .ofString version)])]

/-! ## Methods -/

/-- What a message asks for. -/
inductive Method where
  | start
  | shutdown
  | exit
  /-- A request that is served. -/
  | request (name : Text)
  /-- A notification that is taken. -/
  | notification (name : Text)
  /-- A request that exists, but is not served. -/
  | unserved (name : Text)
  /-- A notification that exists, but changes nothing. -/
  | ignored
  /-- A notification that withdraws a request. It is taken in every phase, but nothing is left
  to withdraw when it comes. -/
  | withdrawal
  /-- A message that a server may pass over, unless it knows it. -/
  | optional
  | unknown
  deriving DecidableEq, Repr

/-- The requests that are served. -/
def served : List String :=
  ["textDocument/completion", "textDocument/signatureHelp", "textDocument/semanticTokens/full",
   "textDocument/documentSymbol", "workspace/symbol", "textDocument/onTypeFormatting"]

/-- The notifications that are taken. -/
def taken : List String :=
  ["textDocument/didOpen", "textDocument/didChange", "textDocument/didClose",
   "workspace/didChangeConfiguration", "workspace/didChangeWatchedFiles"]

/-- The notifications that change nothing. -/
def silent : List String :=
  ["initialized", "textDocument/didSave", "textDocument/willSave",
   "workspace/didChangeWorkspaceFolders", "workspace/didCreateFiles", "workspace/didRenameFiles",
   "workspace/didDeleteFiles", "window/workDoneProgress/cancel"]

/-- A name is in a list of names. -/
def isAmong (names : List String) (name : Text) : Bool :=
  (names.map String.toList).contains name

/-- The method of a name. Names that start with a dollar sign and a slash are optional. -/
def Method.ofName (name : Text) : Method :=
  if name = "initialize".toList then .start
  else if name = "shutdown".toList then .shutdown
  else if name = "exit".toList then .exit
  else if isAmong served name then .request name
  else if isAmong taken name then .notification name
  else if isAmong silent name then .ignored
  else if (Protocol.Unserved.form? name).isSome then .unserved name
  else if name = "$/cancelRequest".toList then .withdrawal
  else if "$/".toList.isPrefixOf name then .optional
  else .unknown

/-! ## Requests -/

/-- Reads parameters, or refuses. -/
def reading {α : Type} (read : Json → Option α) (parameters : Json) (session : Session)
    (answer : α → Json × Session) : Except Refusal Json × Session :=
  match read parameters with
  | none => (.error .badParameters, session)
  | some request =>
    let (value, session) := answer request
    (.ok value, session)

/-- The answer to a request that is served. -/
def answer (tree : FileTree) (method : Text) (parameters : Json) (session : Session) :
    Except Refusal Json × Session :=
  if method = "textDocument/completion".toList then
    reading Protocol.completionRequest? parameters session fun request =>
      let (found, session) :=
        session.completion tree request.place.uri request.place.position request.reason
      (Protocol.items found, session)
  else if method = "textDocument/signatureHelp".toList then
    reading Protocol.helpRequest? parameters session fun place =>
      let (found, session) := session.signatureHelp tree place.uri place.position
      (Protocol.help found, session)
  else if method = "textDocument/semanticTokens/full".toList then
    reading Protocol.documentRequest? parameters session fun uri =>
      (Protocol.displayTokens (session.displayTokens uri), session)
  else if method = "textDocument/documentSymbol".toList then
    reading Protocol.documentRequest? parameters session fun uri =>
      let (found, session) := session.documentSymbols uri
      (Protocol.documentSymbols found, session)
  else if method = "workspace/symbol".toList then
    reading Protocol.symbolRequest? parameters session fun query =>
      let (found, session) := session.workspaceSymbols query
      (Protocol.symbols found, session)
  else
    reading Protocol.typingRequest? parameters session fun request =>
      (Protocol.edits (session.onTypeEdit request.place.uri request.place.position.line
        request.typed request.tabSize request.spaces), session)

/-! ## Notifications -/

/-- Publishes the reports about a document, if it is open. -/
def publish (tree : FileTree) (uri : Uri) (session : Session) : List Json × Session :=
  match session.document? uri with
  | none => ([], session)
  | some document =>
    let (reports, session) := session.diagnostics tree uri
    ([published uri reports document.version], session)

/-- Publishes the reports about some documents. -/
def publishEach (tree : FileTree) (session : Session) : List Uri → List Json × Session
  | [] => ([], session)
  | uri :: rest =>
    let (here, session) := publish tree uri session
    let (others, session) := publishEach tree session rest
    (here ++ others, session)

/-- Publishes the reports about all open documents, in the order of their addresses. -/
def publishAll (tree : FileTree) (session : Session) : List Json × Session :=
  publishEach tree session (session.inOrder.map Prod.fst)

/-- What a notification changes, and what is published after it. One that is ill-formed
changes nothing. -/
def notice (tree : FileTree) (method : Text) (parameters : Json) (session : Session) :
    List Json × Session :=
  if method = "textDocument/didOpen".toList then
    match Protocol.opening? parameters with
    | none => ([], session)
    | some opened =>
      publish tree opened.uri (session.openDocument opened.uri opened.text (some opened.version))
  else if method = "textDocument/didChange".toList then
    match Protocol.changes? parameters with
    | none => ([], session)
    | some changed =>
      let session :=
        changed.changes.foldl (fun s change => s.applyChange changed.uri change) session
      publish tree changed.uri (session.setVersion changed.uri changed.version)
  else if method = "textDocument/didClose".toList then
    match Protocol.closing? parameters with
    | none => ([], session)
    | some uri => ([published uri [] none], session.closeDocument uri)
  else if method = "workspace/didChangeConfiguration".toList then
    match Protocol.settings? parameters with
    | none => ([], session)
    | some settings => publishAll tree (session.configure (session.config.update settings))
  else
    match Protocol.watched? parameters with
    | none => ([], session)
    | some uris => publishAll tree (uris.foldl Session.invalidate session)

/-! ## Messages -/

/-- A server that nobody has started. -/
def new (config : Config) : Server := ⟨.waiting, .new config⟩

/-- A reply without content. -/
def silence : Reply := ⟨none, []⟩

/-- A reply to a request only; a notification gets none. -/
def respond (message : Message) (value : Except Refusal Json) : Reply :=
  ⟨message.id.map fun id => response id value, []⟩

/-- The refusal of everything that is not served in a phase. -/
def Phase.refusal (phase : Phase) : Refusal :=
  if phase = .waiting then .notStarted else .outOfPlace

/-- The first request: the server starts if it is well formed. -/
def start (message : Message) (server : Server) : Reply × Server :=
  if server.phase ≠ .waiting then (respond message (.error .outOfPlace), server)
  else if message.id.isNone then (silence, server)
  else match message.parameters.bind Protocol.startOptions? with
    | none => (respond message (.error .badParameters), server)
    | some options =>
      let session := match options with
        | some sent => server.session.configure (server.session.config.update sent)
        | none => server.session
      (respond message (.ok greeting), ⟨.serving, session⟩)

/-- The request to shut down, which has no parameters. -/
def shutdown (message : Message) (server : Server) : Reply × Server :=
  if server.phase ≠ .serving then
    (respond message (.error (Phase.refusal server.phase)), server)
  else
    let value := if message.parameters.isSome then .error .badParameters else .ok .null
    (respond message value, { server with phase := .closing })

/-- The refusal of a request that is not served. Its parameters are still read, and ill-formed
ones come first. -/
def unservedRefusal (name : Text) : Option Json → Refusal
  | none => .badParameters
  | some parameters =>
    match (Protocol.Unserved.form? name).bind fun form => form parameters with
    | some _ => .unsupported
    | none => .badParameters

/-- A message that is only taken while the server serves. -/
def serve (tree : FileTree) (message : Message) (method : Method) (server : Server) :
    Reply × Server :=
  if server.phase ≠ .serving then
    (respond message (.error (Phase.refusal server.phase)), server)
  else match method, message.id with
    | .request name, some id =>
      match message.parameters with
      | none => (respond message (.error .badParameters), server)
      | some parameters =>
        let (value, session) := answer tree name parameters server.session
        (⟨some (response id value), []⟩, { server with session := session })
    | .unserved name, some _ =>
      (respond message (.error (unservedRefusal name message.parameters)), server)
    | .notification name, none =>
      match message.parameters with
      | none => (silence, server)
      | some parameters =>
        let (notifications, session) := notice tree name parameters server.session
        (⟨none, notifications⟩, { server with session := session })
    | _, some _ => (respond message (.error .outOfPlace), server)
    | _, none => (silence, server)

/-- Takes a message. After the end there is no reply to anything. -/
def handle (tree : FileTree) (message : Message) (server : Server) : Option Reply × Server :=
  if server.phase = .ended then (none, server)
  else match Method.ofName message.method with
    | .start =>
      let (reply, server) := start message server
      (some reply, server)
    | .shutdown =>
      let (reply, server) := shutdown message server
      (some reply, server)
    | .exit => (some silence, { server with phase := .ended })
    | .withdrawal => (some (respond message (.error .outOfPlace)), server)
    | .optional => (some silence, server)
    | .unknown => (some (respond message (.error (.unknown message.method))), server)
    | method =>
      let (reply, server) := serve tree message method server
      (some reply, server)

end Server

end LuaAssist

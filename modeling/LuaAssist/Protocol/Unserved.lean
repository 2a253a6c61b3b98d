import LuaAssist.Protocol.Form

/-!
# Requests that are not served

Editors know more requests than this server serves. Their parameters are read all the same,
for a request that is ill-formed is refused as such.
-/

namespace LuaAssist.Protocol.Unserved

open Form (needed optional object record listOf text word signed any bool number documentField
  placeFields workField partFields)

/-- A request about a place that may be answered in parts. -/
def placeInParts : Form := object (placeFields ++ partFields)

/-- A request about a place. -/
def place : Form := object (workField :: placeFields)

/-- A request about a document, with the given fields besides. -/
def documentWith (fields : List Form.Field) : Form := object (documentField :: partFields ++ fields)

/-- A member of a hierarchy. -/
def member : Form :=
  record [needed "name" text, needed "kind" signed, optional "tags" any, optional "detail" text,
    needed "uri" Form.uri, needed "range" Form.range, needed "selectionRange" Form.range,
    optional "data" any]

/-- A request about a member of a hierarchy. -/
def ofMember : Form := object (needed "item" member :: partFields)

/-- A request about some files. -/
def ofFiles (keys : List String) : Form :=
  record [needed "files" (listOf (record (keys.map fun key => needed key text)))]

/-- A color. -/
def color : Form :=
  record (["red", "green", "blue", "alpha"].map fun part => needed part number)

/-- The requests that exist but are not served, and the forms of their parameters. -/
def forms : List (String × Form) :=
  [("textDocument/hover", place),
   ("textDocument/declaration", placeInParts),
   ("textDocument/definition", placeInParts),
   ("textDocument/typeDefinition", placeInParts),
   ("textDocument/implementation", placeInParts),
   ("textDocument/references", object (placeFields ++ partFields ++
     [needed "context" (record [needed "includeDeclaration" bool])])),
   ("textDocument/documentHighlight", placeInParts),
   ("textDocument/moniker", placeInParts),
   ("textDocument/rename", object (workField :: needed "newName" text :: placeFields)),
   ("textDocument/prepareRename", record placeFields),
   ("textDocument/linkedEditingRange", place),
   ("textDocument/prepareCallHierarchy", place),
   ("callHierarchy/incomingCalls", ofMember),
   ("callHierarchy/outgoingCalls", ofMember),
   ("textDocument/prepareTypeHierarchy", place),
   ("typeHierarchy/supertypes", ofMember),
   ("typeHierarchy/subtypes", ofMember),
   ("textDocument/willSaveWaitUntil", record [documentField, needed "reason" signed]),
   ("textDocument/documentLink", documentWith []),
   ("documentLink/resolve", object [needed "range" Form.range]),
   ("textDocument/codeLens", documentWith []),
   ("codeLens/resolve", object [needed "range" Form.range]),
   ("textDocument/foldingRange", documentWith []),
   ("textDocument/selectionRange", documentWith [needed "positions" (listOf Form.position)]),
   ("textDocument/semanticTokens/full/delta", documentWith [needed "previousResultId" text]),
   ("textDocument/semanticTokens/range", documentWith [needed "range" Form.range]),
   ("textDocument/inlineValue", object [documentField, workField, needed "range" Form.range,
     needed "context" (record [needed "frameId" signed, needed "stoppedLocation" Form.range])]),
   ("textDocument/inlayHint", object [documentField, workField, needed "range" Form.range]),
   ("inlayHint/resolve", object [needed "position" Form.position, needed "label" any]),
   ("completionItem/resolve", object [needed "label" text]),
   ("textDocument/diagnostic", documentWith [optional "identifier" text,
     optional "previousResultId" text]),
   ("workspace/diagnostic", object (optional "identifier" text ::
     needed "previousResultIds"
       (listOf (record [needed "uri" Form.uri, needed "value" text])) :: partFields)),
   ("textDocument/codeAction", documentWith [needed "range" Form.range,
     needed "context" (object [needed "diagnostics"
       (listOf (object [needed "range" Form.range, needed "message" text])),
       optional "only" (listOf text), optional "triggerKind" signed])]),
   ("codeAction/resolve", object [needed "title" text]),
   ("textDocument/documentColor", documentWith []),
   ("textDocument/colorPresentation", documentWith [needed "color" color,
     needed "range" Form.range]),
   ("textDocument/formatting", object [documentField, workField, needed "options" Form.layout]),
   ("textDocument/rangeFormatting", object [documentField, workField, needed "range" Form.range,
     needed "options" Form.layout]),
   ("workspaceSymbol/resolve", object [needed "name" text, needed "kind" signed,
     needed "location" (object [needed "uri" Form.uri])]),
   ("workspace/willCreateFiles", ofFiles ["uri"]),
   ("workspace/willRenameFiles", ofFiles ["oldUri", "newUri"]),
   ("workspace/willDeleteFiles", ofFiles ["uri"]),
   ("workspace/executeCommand", object [workField, needed "command" text])]

/-- The form of the parameters of a request that is not served. -/
def form? (name : Text) : Option Form :=
  (forms.find? fun (known, _) => known.toList = name).map Prod.snd

end LuaAssist.Protocol.Unserved

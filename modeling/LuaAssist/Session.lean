import LuaAssist.Config
import LuaAssist.Documentation.Store
import LuaAssist.Document
import LuaAssist.Uri

/-!
# Sessions

The open documents of an editor with the settings, the index and the documentation that
serve them. Changes to a document that is not open do nothing.
-/

namespace LuaAssist

/-- An open document. -/
structure OpenDocument where
  text : Text
  /-- The number that the editor has given to this text. -/
  version : Option Int
  deriving DecidableEq, Repr

/-- The state of a session. -/
structure Session where
  /-- The open documents, the one opened last first. -/
  documents : List (Uri × OpenDocument)
  config : Config
  index : Index
  store : Documentation.Store

namespace Session

/-- A session without open documents. -/
def new (config : Config) : Session where
  documents := []
  config := config
  index := .new config.indexRule
  store := .new config.documentation

/-- The open document at an address. -/
def document? (session : Session) (uri : Uri) : Option OpenDocument :=
  session.documents.lookup uri

/-- New settings need another index. -/
def rebuildsIndex (session : Session) (config : Config) : Bool :=
  config.indexRule ≠ session.index.rule

/-- New settings name another directory of documentation. -/
def rebuildsStore (session : Session) (config : Config) : Bool :=
  config.documentation.map Path.parts ≠ session.config.documentation.map Path.parts

/-- Takes over new settings. What was read stays, unless it depends on settings that are
changed. -/
def configure (session : Session) (config : Config) : Session :=
  { session with
    config := config
    index := if session.rebuildsIndex config then .new config.indexRule else session.index
    store := if session.rebuildsStore config then .new config.documentation else session.store }

/-- Opens a document, or opens it again with another text. -/
def openDocument (session : Session) (uri : Uri) (text : Text) (version : Option Int) : Session :=
  { session with
    documents := (uri, ⟨text, version⟩) :: session.documents.filter fun (other, _) => other ≠ uri }

/-- Closes a document. -/
def closeDocument (session : Session) (uri : Uri) : Session :=
  { session with documents := session.documents.filter fun (other, _) => other ≠ uri }

/-- Alters an open document. -/
def alter (session : Session) (uri : Uri) (change : OpenDocument → OpenDocument) : Session :=
  { session with
    documents := session.documents.map fun (other, document) =>
      (other, if other = uri then change document else document) }

/-- Changes the text of a document. -/
def applyChange (session : Session) (uri : Uri) (change : Document.Change) : Session :=
  session.alter uri fun document => { document with text := Document.apply document.text change }

/-- Gives a document the number that the editor has for its text. -/
def setVersion (session : Session) (uri : Uri) (version : Int) : Session :=
  session.alter uri fun document => { document with version := some version }

/-- Forgets what was read of a file that has changed. -/
def invalidate (session : Session) (uri : Uri) : Session :=
  match uri.toPath? with
  | some path => { session with index := session.index.invalidate path }
  | none => session

/-- The open documents in the order of their addresses. -/
def inOrder (session : Session) : List (Uri × OpenDocument) :=
  session.documents.mergeSort fun (a, _) (b, _) => !decide (b.render < a.render)

end Session

end LuaAssist

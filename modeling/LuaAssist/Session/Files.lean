import LuaAssist.Session

/-!
# Files that a session may read

A session reads no file that cannot be named beforehand: the documentation files, and the
places where the modules that open documents require could be. Modules that are found
there require others in turn.
-/

namespace LuaAssist

/-- The places of all modules that a text requires which belongs at a path. -/
def Index.placesFor (rule : IndexRule) (path : Path) (text : Text) : List Path :=
  let declared := Require.declarations rule.search.placeholder text
  declared.references.flatMap fun reference =>
    Resolve.allPlaces rule.search declared.patterns path reference.name

/-- The documentation files of a directory. -/
def Documentation.Store.files (store : Documentation.Store) : List Path :=
  ["words", "members", "calls"].filterMap store.file?

namespace Session

/-- The files that the answers of a session can depend on directly. -/
def directFiles (session : Session) : List Path :=
  session.store.files ++ session.documents.flatMap fun (uri, document) =>
    match uri.toPath? with
    | some path => Index.placesFor session.index.rule path document.text
    | none => []

end Session

end LuaAssist

import LuaAssist.Cache.Files
import LuaAssist.Documentation

/-!
# The documentation of a directory

The three documentation files of a directory, each read again when it has changed. What
is missing reads as empty.
-/

namespace LuaAssist.Documentation

/-- A directory with documentation, and what has been read of it. -/
structure Store where
  directory : Option Path
  wordFiles : FileCache (List Text)
  memberFiles : FileCache MemberTable
  callFiles : FileCache CallTable

namespace Store

/-- The documentation of a directory, of which nothing has been read. -/
def new (directory : Option Path) : Store := ⟨directory, .empty, .empty, .empty⟩

/-- The file of a name. -/
def file? (store : Store) (name : String) : Option Path :=
  store.directory.map fun directory => directory.join ⟨name.toList⟩

/-- The documented words. -/
def words (tree : FileTree) (store : Store) : List Text × Store :=
  match store.file? "words" with
  | none => ([], store)
  | some path =>
    let (value, cache) := store.wordFiles.get Documentation.words [] tree path
    (value, { store with wordFiles := cache })

/-- The documented types. -/
def members (tree : FileTree) (store : Store) : MemberTable × Store :=
  match store.file? "members" with
  | none => (.empty, store)
  | some path =>
    let (value, cache) := store.memberFiles.get MemberTable.ofText .empty tree path
    (value, { store with memberFiles := cache })

/-- The documented functions. -/
def calls (tree : FileTree) (store : Store) : CallTable × Store :=
  match store.file? "calls" with
  | none => (.empty, store)
  | some path =>
    let (value, cache) := store.callFiles.get CallTable.ofText .empty tree path
    (value, { store with callFiles := cache })

end Store

end LuaAssist.Documentation

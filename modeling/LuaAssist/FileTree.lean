import LuaAssist.Path
import LuaAssist.Text.Utf8

/-!
# A tree of files

The files that the library can read: regular files with their bytes and the time at
which they were written, and directories. A path is followed piece by piece, and every
piece needs a directory to stand in. Reading takes place at the time of the tree's clock.
-/

namespace LuaAssist

/-- A regular file. -/
structure File where
  bytes : List UInt8
  /-- When the file was written. -/
  modified : Int
  deriving DecidableEq, Repr

/-- Files and directories by the names on the way from the root. -/
structure FileTree where
  files : List (List Text × File)
  directories : List (List Text)
  /-- The time at which the tree is looked at. -/
  clock : Int
  deriving Repr

namespace FileTree

/-- A tree with nothing but its root. -/
def empty : FileTree := ⟨[], [], 0⟩

/-- A directory of the tree; the root is one. -/
def isDirectory (tree : FileTree) (names : List Text) : Bool :=
  names = [] || tree.directories.contains names

/-- The regular file at the end of these names. -/
def fileAt? (tree : FileTree) (names : List Text) : Option File := tree.files.lookup names

/-- Where a piece leads from a place: an empty piece and `.` stay, and `..` goes up. -/
def step (place : List Text) (piece : Text) : List Text :=
  if piece = [] || piece = ['.'] then place
  else if piece = ['.', '.'] then place.dropLast
  else place ++ [piece]

/-- One step from a place: it has to be a directory. -/
def enter? (tree : FileTree) (place : List Text) (piece : Text) : Option (List Text) :=
  if tree.isDirectory place then some (step place piece) else none

/-- The place that pieces lead to. -/
def follow? (tree : FileTree) (place : List Text) : List Text → Option (List Text)
  | [] => some place
  | piece :: rest => do tree.follow? (← tree.enter? place piece) rest

/-- The regular file that an absolute path names. -/
def read? (tree : FileTree) (path : Path) : Option File := do
  if path.isAbsolute then tree.fileAt? (← tree.follow? [] path.pieces) else none

/-- The text of the regular file that a path names, if its bytes are UTF-8. -/
def text? (tree : FileTree) (path : Path) : Option Text := do
  Text.ofUtf8? (← tree.read? path).bytes

/-- An absolute path names a regular file. -/
def isFile (tree : FileTree) (path : Path) : Bool := (tree.read? path).isSome

/-- Makes a directory. -/
def addDirectory (tree : FileTree) (place : List Text) : FileTree :=
  if tree.isDirectory place then tree
  else { tree with directories := place :: tree.directories }

/-- Follows pieces from a place and makes the directories on the way: the tree after that and
the place that is reached. -/
def makeWay (tree : FileTree) (place : List Text) : List Text → FileTree × List Text
  | [] => (tree, place)
  | piece :: rest => (tree.addDirectory (step place piece)).makeWay (step place piece) rest

/-- Makes the directory at an absolute path and the directories on the way to it. -/
def makeDirectory (tree : FileTree) (path : Path) : FileTree := (tree.makeWay [] path.pieces).1

/-- Writes the regular file at an absolute path, and makes the directories on the way to it. -/
def write (tree : FileTree) (path : Path) (file : File) : FileTree :=
  let (tree, directory) := tree.makeWay [] path.pieces.dropLast
  let place := step directory (path.pieces.getLast?.getD [])
  { tree with files := (place, file) :: tree.files.filter fun (p, _) => p ≠ place }

/-- Deletes the regular file at an absolute path, if there is one. -/
def delete (tree : FileTree) (path : Path) : FileTree :=
  match tree.follow? [] path.pieces with
  | none => tree
  | some place => { tree with files := tree.files.filter fun (p, _) => p ≠ place }

/-- The absolute paths of all regular files. -/
def paths (tree : FileTree) : List Path :=
  tree.files.map fun (names, _) => Path.ofParts (.root :: names.map .name)

end FileTree

end LuaAssist

import LuaAssist.FileTree

/-!
# Values read from files

A value that was computed from a file is served again as long as the file is older than
the reading. A file that cannot be read has the default value, which is not kept.
-/

namespace LuaAssist

/-- A value computed from a file. -/
structure Kept (α : Type) where
  /-- The parts of the file's path. -/
  key : List Path.Part
  value : α
  /-- When the file was read. -/
  readAt : Int

/-- Values computed from files, at most one for each path. -/
structure FileCache (α : Type) where
  entries : List (Kept α)

namespace FileCache

variable {α : Type}

/-- Nothing is kept. -/
def empty : FileCache α := ⟨[]⟩

/-- What is kept for a path, whether it may be served or not. -/
def find? (cache : FileCache α) (path : Path) : Option (Kept α) :=
  cache.entries.find? fun kept => kept.key = path.parts

/-- Something is kept for a path. -/
def contains (cache : FileCache α) (path : Path) : Bool := (cache.find? path).isSome

/-- Forgets a path. -/
def invalidate (cache : FileCache α) (path : Path) : FileCache α :=
  ⟨cache.entries.filter fun kept => kept.key ≠ path.parts⟩

/-- Keeps a value in the place of the one that was kept for its path. -/
def keep (cache : FileCache α) (kept : Kept α) : FileCache α :=
  ⟨kept :: cache.entries.filter fun other => other.key ≠ kept.key⟩

/-- The value that is served without reading: its file exists and has not been written since
the reading. -/
def served? (cache : FileCache α) (tree : FileTree) (path : Path) : Option α := do
  let file ← tree.read? path
  let kept ← cache.find? path
  if file.modified < kept.readAt then some kept.value else none

/-- The value of a file, read if it has to be. -/
def get (parse : Text → α) (default : α) (tree : FileTree) (path : Path) (cache : FileCache α) :
    α × FileCache α :=
  match cache.served? tree path with
  | some value => (value, cache)
  | none =>
    match tree.text? path with
    | some text => (parse text, cache.keep ⟨path.parts, parse text, tree.clock⟩)
    | none => (default, cache)

end FileCache

end LuaAssist

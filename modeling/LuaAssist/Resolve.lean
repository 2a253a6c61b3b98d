import LuaAssist.FileTree
import LuaAssist.Require

/-!
# From module names to files

A module name stands for several relative paths, tried in a fixed order. Each is looked
for in the directory of the requiring file and then in every directory above it; the
first regular file is the module.
-/

namespace LuaAssist

/-- What shapes the paths of a module. -/
structure SearchRule where
  /-- The extension that is tried behind every path, without its dot. -/
  extension : Text
  /-- The character that stands for the module name in a search pattern. -/
  placeholder : Char
  deriving DecidableEq, Repr

namespace Resolve

/-- The spellings of a module name: as written and, if it has dots that are not in front,
with slashes for dots. -/
def forms (name : Text) : List Text :=
  if name.contains '.' && name.head? ≠ some '.' then
    [name, name.map fun c => if c = '.' then '/' else c]
  else [name]

/-- Puts a text in the place of the first placeholder. -/
def substitute (placeholder : Char) (form : Text) : Text → Text
  | [] => []
  | c :: rest => if c = placeholder then form ++ rest else c :: substitute placeholder form rest

/-- A path with the extension behind it; the empty extension adds nothing. -/
def withExtension (extension path : Text) : Text :=
  if extension.isEmpty then path else path ++ '.' :: extension

/-- Paths as they are, then all of them with the extension. -/
def withAndWithout (extension : Text) (paths : List Text) : List Text :=
  paths ++ paths.map (withExtension extension)

/-- All paths of a module, some of them perhaps more than once. -/
def spellings (rule : SearchRule) (patterns : List Text) (name : Text) : List Text :=
  withAndWithout rule.extension (forms name) ++
    patterns.flatMap fun pattern =>
      withAndWithout rule.extension
        ((forms name).map fun form => substitute rule.placeholder form pattern)

/-- Adds a path that is not empty and not known yet. -/
def addNew (known : List Text) (path : Text) : List Text :=
  if path.isEmpty || known.contains path then known else known ++ [path]

/-- The paths to try for a module, in order. -/
def candidates (rule : SearchRule) (patterns : List Text) (name : Text) : List Text :=
  (spellings rule patterns name).foldl addNew []

/-- The places at which a path is looked for from a directory. -/
def places (directory : Path) (candidate : Path) : List Path :=
  if candidate.isAbsolute then [candidate]
  else directory.ancestors.map fun above => above.join candidate

/-- All places of a module that is required from a file, in the order in which they are
tried. -/
def allPlaces (rule : SearchRule) (patterns : List Text) (requiring : Path) (name : Text) :
    List Path :=
  match requiring.parent? with
  | none => []
  | some directory =>
    (candidates rule patterns name).flatMap fun candidate => places directory ⟨candidate⟩

/-- The file of a module that is required from a file. -/
def file? (tree : FileTree) (rule : SearchRule) (patterns : List Text) (requiring : Path)
    (name : Text) : Option Path := do
  let found ← (allPlaces rule patterns requiring name).find? tree.isFile
  found.normalize?

/-- A reference with the file that it leads to. -/
structure Resolved where
  reference : Reference
  path : Path
  deriving DecidableEq, Repr

/-- The references of a file, as far as they lead to files. -/
structure Dependencies where
  resolved : List Resolved
  unresolved : List Reference
  deriving DecidableEq, Repr

/-- Adds a path unless the same path is already there. -/
def addPath (known : List Path) (path : Path) : List Path :=
  if known.any path.same then known else known ++ [path]

/-- The files that the references lead to, each once. -/
def Dependencies.paths (dependencies : Dependencies) : List Path :=
  (dependencies.resolved.map Resolved.path).foldl addPath []

/-- Looks up every reference of a file. -/
def dependencies (tree : FileTree) (rule : SearchRule) (requiring : Path)
    (declared : Declarations) : Dependencies :=
  let file := fun (r : Reference) => file? tree rule declared.patterns requiring r.name
  { resolved := declared.references.filterMap fun r => (file r).map fun path => ⟨r, path⟩
    unresolved := declared.references.filter fun r => (file r).isNone }

end Resolve

end LuaAssist

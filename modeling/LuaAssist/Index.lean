import LuaAssist.Cache.Files
import LuaAssist.Cache.Texts
import LuaAssist.Reach
import LuaAssist.StandardLibrary

/-!
# The index of functions and references

What files define and require is read once and kept, and so is what open documents
define and require. Where references lead is looked up each time, for files come and go.
-/

namespace LuaAssist

/-- What an index depends on; other settings need another index. -/
structure IndexRule where
  search : SearchRule
  /-- The standard library is visible everywhere. -/
  builtins : Bool
  /-- How many open texts are remembered. -/
  capacity : Nat
  deriving DecidableEq, Repr

/-- An index with what it has read. -/
structure Index where
  rule : IndexRule
  fileSignatures : FileCache (List Signature)
  fileDeclarations : FileCache Declarations
  textSignatures : TextCache (List Signature)
  textDeclarations : TextCache Declarations

namespace Index

/-- An index that has read nothing. -/
def new (rule : IndexRule) : Index where
  rule := rule
  fileSignatures := .empty
  fileDeclarations := .empty
  textSignatures := .new rule.capacity
  textDeclarations := .new rule.capacity

/-- The functions of the standard library, if they are wanted. -/
def builtins (index : Index) : List Signature :=
  if index.rule.builtins then StandardLibrary.signatures else []

/-- The functions that a file defines, each with the file as its origin. -/
def signaturesOf (tree : FileTree) (path : Path) (index : Index) : List Signature × Index :=
  let parse := fun text => (Signature.ofText text).map (Signature.withOrigin path)
  let (value, cache) := index.fileSignatures.get parse [] tree path
  (value, { index with fileSignatures := cache })

/-- What a file requires. -/
def declarationsOf (tree : FileTree) (path : Path) (index : Index) : Declarations × Index :=
  let parse := Require.declarations index.rule.search.placeholder
  let (value, cache) := index.fileDeclarations.get parse ⟨[], []⟩ tree path
  (value, { index with fileDeclarations := cache })

/-- Where the references of a file lead. -/
def dependenciesOf (tree : FileTree) (path : Path) (index : Index) :
    Resolve.Dependencies × Index :=
  let (declared, index) := index.declarationsOf tree path
  (Resolve.dependencies tree index.rule.search path declared, index)

/-- The files that a file refers to. -/
def neighbours (tree : FileTree) (path : Path) (index : Index) : List Path × Index :=
  let (dependencies, index) := index.dependenciesOf tree path
  (dependencies.paths, index)

/-- All files that can be reached from some files without passing through the given ones,
the near ones first. -/
def follow (tree : FileTree) (roots avoided : List Path) (index : Index) : List Path × Index :=
  Reach.breadthFirst Path.parts (tree.paths.map Path.parts) (neighbours tree) roots
    (avoided.map Path.parts) index

/-- The path in its normal form, if it has one. -/
def normal (path : Path) : Path := path.normalize?.getD path

/-- The files that can be reached from a file, itself first. -/
def reachable (tree : FileTree) (path : Path) (index : Index) : List Path × Index :=
  if tree.isFile (normal path) then index.follow tree [normal path] [] else ([], index)

/-- The functions of some files, one file after the other. -/
def signaturesOfAll (tree : FileTree) (index : Index) : List Path → List Signature × Index
  | [] => ([], index)
  | path :: rest =>
    let (here, index) := index.signaturesOf tree path
    let (others, index) := signaturesOfAll tree index rest
    (here ++ others, index)

/-- The functions that a file can use. -/
def visible (tree : FileTree) (path : Path) (index : Index) : List Signature × Index :=
  let (files, index) := index.reachable tree path
  let (found, index) := index.signaturesOfAll tree files
  (found ++ index.builtins, index)

/-- The functions that an open text defines. -/
def textSignaturesOf (text : Text) (index : Index) : List Signature × Index :=
  let (value, cache) := index.textSignatures.get Signature.ofText text
  (value, { index with textSignatures := cache })

/-- Where the references of an open text lead that belongs at a path. -/
def textDependencies (tree : FileTree) (path : Path) (text : Text) (index : Index) :
    Resolve.Dependencies × Index :=
  let parse := Require.declarations index.rule.search.placeholder
  let (declared, cache) := index.textDeclarations.get parse text
  (Resolve.dependencies tree index.rule.search path declared,
    { index with textDeclarations := cache })

/-- The files that can be reached from an open text without passing through the file at its
own path. -/
def textReachable (tree : FileTree) (path : Path) (text : Text) (index : Index) :
    List Path × Index :=
  let (dependencies, index) := index.textDependencies tree path text
  index.follow tree dependencies.paths [normal path]

/-- The functions that an open text can use: its own, those of the files it reaches, and the
standard library. -/
def textVisible (tree : FileTree) (path : Path) (text : Text) (index : Index) :
    List Signature × Index :=
  let (own, index) := index.textSignaturesOf text
  let (files, index) := index.textReachable tree path text
  let (found, index) := index.signaturesOfAll tree files
  (own ++ found ++ index.builtins, index)

/-- Forgets what was read of a file. -/
def invalidate (path : Path) (index : Index) : Index :=
  { index with
    fileSignatures := index.fileSignatures.invalidate path
    fileDeclarations := index.fileDeclarations.invalidate path }

end Index

end LuaAssist

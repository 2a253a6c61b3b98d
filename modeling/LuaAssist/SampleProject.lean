import LuaAssist.FileTree

/-!
# Sample projects

Lua projects of any size for measurements: modules that require one another in a chain,
each with plain functions, methods of a table and assignments. The same sizes always
give the same files.
-/

namespace LuaAssist

/-- The sizes of a sample project. -/
structure SampleProject where
  /-- How many modules there are. -/
  modules : Nat
  /-- Plain functions in each module. -/
  functions : Nat
  /-- How many modules, from the first on, require the next one. -/
  chain : Nat
  /-- Methods in each module. -/
  methods : Nat
  /-- Assignments in each module. -/
  assignments : Nat
  deriving DecidableEq, Repr

namespace SampleProject

/-- Ten modules. -/
def small : SampleProject := ⟨10, 5, 3, 2, 5⟩

/-- Fifty modules. -/
def medium : SampleProject := ⟨50, 10, 10, 4, 10⟩

/-- Two hundred modules. -/
def large : SampleProject := ⟨200, 20, 15, 6, 20⟩

/-- A number in base ten. -/
def digits (n : Nat) : Text := (Nat.repr n).toList

/-- The name of a module. -/
def moduleName (index : Nat) : Text := "mod_".toList ++ digits index

/-- Names that belong to a module and have a number there. -/
def numbered (stem : String) (index item : Nat) : Text :=
  stem.toList ++ digits index ++ '_' :: digits item

/-- The line that requires the next module, and an empty one. -/
def requireLines (project : SampleProject) (index : Nat) : List Text :=
  if index < project.chain && index + 1 < project.modules then
    ["local next_mod = require(\"".toList ++ moduleName (index + 1) ++ "\")".toList, []]
  else []

/-- A plain function. -/
def functionLines (index item : Nat) : List Text :=
  ["local function ".toList ++ numbered "func_" index item ++ "(x, y)".toList,
   "    local result = x + y * ".toList ++ digits (item + 1),
   "    if result == nil then".toList,
   "        return 0".toList,
   "    end".toList,
   "    return result".toList,
   "end".toList,
   []]

/-- A method. -/
def methodLines (index item : Nat) : List Text :=
  ["function M:".toList ++ numbered "method_" index item ++ "(value)".toList,
   "    self.value_".toList ++ digits item ++ " = value".toList,
   "end".toList,
   []]

/-- An assignment. -/
def assignmentLine (index item : Nat) : Text :=
  numbered "M.var_" index item ++ " = ".toList ++ digits (item + 1)

/-- The lines of a module. -/
def lines (project : SampleProject) (index : Nat) : List Text :=
  project.requireLines index ++ ["local M = \x7b\x7d".toList, []] ++
    (List.range project.functions).flatMap (functionLines index) ++
    (List.range project.methods).flatMap (methodLines index) ++
    (List.range project.assignments).map (assignmentLine index) ++ [[], "return M".toList]

/-- The text of a module. -/
def moduleText (project : SampleProject) (index : Nat) : Text :=
  (project.lines index).flatMap fun line => line ++ ['\n']

/-- Writes the modules of a project into a directory. -/
def writeInto (project : SampleProject) (directory : Path) (modified : Int) (tree : FileTree) :
    FileTree :=
  (List.range project.modules).foldl (fun tree index =>
    tree.write (directory.join ⟨moduleName index ++ ".lua".toList⟩)
      ⟨Text.toUtf8 (project.moduleText index), modified⟩) tree

end SampleProject

end LuaAssist

import LuaAssist.Proofs.Reach.Chain
import LuaAssist.Proofs.SampleProject.Files

/-!
# The chain of a sample project

From a module of a project that was written into a directory exactly the modules behind it are
reached, one after the other, down to the end of the chain. Each of them defines its functions and
then its methods, on the lines that were written for them.
-/

namespace LuaAssist

namespace SampleProject

variable {project : SampleProject} {directory : Path} {tree : FileTree} {index : Nat}
  {rule : IndexRule} {modified : Int}

/-- The last module that is reached from a module. -/
def lastReached (project : SampleProject) (index : Nat) : Nat :=
  max index (min project.chain (project.modules - 1))

/-! ## What can be read -/

section Written

variable (habsolute : directory.isAbsolute = true) (hindex : index < project.modules)
include habsolute hindex

/-- The text of a module is read at its path. -/
theorem text?_filePath :
    (project.writeInto directory modified tree).text? (filePath directory index) =
      some (project.moduleText index) := by
  rw [FileTree.text?, ← writeFirst_modules, read?_writeFirst habsolute modified tree hindex]
  exact Text.ofUtf8?_toUtf8 _

/-- A module is read at its normal path too. -/
theorem read?_normal_filePath :
    (project.writeInto directory modified tree).read? (Index.normal (filePath directory index)) =
      some (project.moduleFile modified index) :=
  FileTree.read?_normalize (read?_writeFirst habsolute modified tree hindex)
    (Index.normalize?_eq_normal (isAbsolute_filePath habsolute index))

/-- Every module of the project is a file under its normal path. -/
theorem isFile_normal_filePath :
    (project.writeInto directory modified tree).isFile
      (Index.normal (filePath directory index)) = true :=
  Option.isSome_iff_exists.mpr ⟨_, read?_normal_filePath habsolute hindex⟩

/-- The file has the text of the module. -/
theorem text?_normal_filePath :
    (project.writeInto directory modified tree).text? (Index.normal (filePath directory index)) =
      some (project.moduleText index) := by
  rw [FileTree.text?, read?_normal_filePath habsolute hindex]
  exact Text.ofUtf8?_toUtf8 _

end Written

/-! ## The chain -/

/-- A module refers to the next one, if there is to be one. -/
theorem paths_dependencies (habsolute : directory.isAbsolute = true)
    (halone : project.IsAlone directory tree) {search : SearchRule}
    (hextension : search.extension = "lua".toList) (index : Nat) :
    (Resolve.dependencies (project.writeInto directory modified tree) search
        (Index.normal (filePath directory index))
        (Require.declarations search.placeholder (project.moduleText index))).paths =
      if project.Requires index then [Index.normal (filePath directory (index + 1))] else [] := by
  rw [declarations_moduleText]
  by_cases hrequires : project.Requires index
  · rw [if_pos hrequires, if_pos hrequires]
    have hfile := (halone.writeInto habsolute modified).file?_moduleName hextension habsolute
      (isFile_normal_filePath habsolute hrequires.2) index
    simp [Resolve.dependencies, Resolve.Dependencies.paths, Resolve.addPath, hfile]
  · rw [if_neg hrequires, if_neg hrequires]
    rfl

/-- Down to the last module that is reached, exactly the modules before it require the next. -/
theorem requires_iff {number : Nat} (hindex : index < project.modules) (hnumber : index ≤ number)
    (hlast : number ≤ project.lastReached index) :
    project.Requires number ↔ number < project.lastReached index := by
  unfold Requires lastReached at *
  omega

/-- The modules from one of them on are a chain for the search. -/
theorem isChain_modules (modified : Int) (habsolute : directory.isAbsolute = true)
    (halone : project.IsAlone directory tree)
    (hextension : rule.search.extension = "lua".toList) (hindex : index < project.modules) :
    let written := project.writeInto directory modified tree
    Reach.IsChain Path.parts (written.paths.map Path.parts) (Index.Faithful rule [written])
      (Index.neighbours written) (fun number => Index.normal (filePath directory number)) index
      (project.lastReached index) := by
  intro written
  have hlooks : ∀ look ∈ [written], look.Precedes written := by
    simpa using written.precedes_self
  have hinside {number : Nat} (hlast : number ≤ project.lastReached index) :
      number < project.modules := by
    unfold lastReached at hlast
    omega
  have hnormal (number : Nat) : (Index.normal (filePath directory number)).IsNormal :=
    Index.isNormal_normal (isAbsolute_filePath habsolute number)
  refine ⟨?leads, ?keeps, ?mem_domain, ?injective⟩
  case leads =>
    intro number hnumber hlast state hstate
    have htext : written.text? (Index.normal (filePath directory number)) =
        some (project.moduleText number) := text?_normal_filePath habsolute (hinside hlast)
    rw [hstate.neighbours_fst hlooks, htext, Option.map_some, Option.getD_some,
      paths_dependencies habsolute halone hextension]
    exact ite_congr (propext (requires_iff hindex hnumber hlast)) (fun _ => rfl) fun _ => rfl
  case keeps =>
    intro number state hstate
    exact (Index.askAlike_neighbours hlooks (List.mem_singleton_self written) _ _ _ hstate
      hstate).2.2
  case mem_domain =>
    intro number _ hlast
    exact List.mem_map_of_mem (Resolve.mem_paths_of_isFile (hnormal number)
      (isFile_normal_filePath habsolute (hinside hlast)))
  case injective =>
    intro number other heq
    have hplace := congrArg Path.placeOf heq
    dsimp only at hplace
    rw [Index.placeOf_normal (isAbsolute_filePath habsolute number),
      Index.placeOf_normal (isAbsolute_filePath habsolute other)] at hplace
    exact placeOf_filePath_injective habsolute hplace

/-- A new index finds the functions of a file in its text. -/
theorem signaturesOf_new (rule : IndexRule) (tree : FileTree) (path : Path) :
    ((Index.new rule).signaturesOf tree path).1 = Index.definedIn tree path := by
  have hserved : (FileCache.empty : FileCache (List Signature)).served? tree path = none := by
    unfold FileCache.served?
    cases tree.read? path <;> rfl
  unfold Index.signaturesOf Index.definedIn Index.new FileCache.get
  dsimp only
  rw [hserved]
  cases tree.text? path <;> rfl

/-- The functions of a module are called by their names, and the methods behind the name of the
table. -/
theorem map_qualifiedName_signatures (project : SampleProject) (index : Nat) (path : Path) :
    ((project.signatures index).map (Signature.withOrigin path)).map Signature.qualifiedName =
      (List.range project.functions).map (functionName index) ++
        (List.range project.methods).map fun item => "M:".toList ++ methodName index item := by
  rw [signatures, List.map_append, List.map_append, List.map_map, List.map_map, List.map_map,
    List.map_map]
  rfl

/-- From a module of a project that was written into a directory, with no other file there or above
that is called like a module, exactly the modules behind it are reached, one after the other, down
to the end of the chain. It defines its functions and then its methods, and the header of each
stands on its line. -/
theorem reachable_modules (project : SampleProject) {directory : Path} {tree : FileTree}
    (modified : Int) {rule : IndexRule} {index : Nat} (habsolute : directory.isAbsolute = true)
    (halone : project.IsAlone directory tree)
    (hextension : rule.search.extension = "lua".toList) (hindex : index < project.modules) :
    let written := project.writeInto directory modified tree
    let path := filePath directory index
    let last := max index (min project.chain (project.modules - 1))
    let found := ((Index.new rule).signaturesOf written path).1
    ((Index.new rule).reachable written path).1 =
        (List.range' index (last + 1 - index)).map (fun number =>
          Index.normal (filePath directory number)) ∧
      found = ((List.range project.functions).map (project.functionSignature index) ++
        (List.range project.methods).map (project.methodSignature index)).map
          (Signature.withOrigin path) ∧
      found.map Signature.qualifiedName =
        (List.range project.functions).map (functionName index) ++
          (List.range project.methods).map (fun item => "M:".toList ++ methodName index item) ∧
      written.text? path = some (project.moduleText index) ∧
      ∀ signature ∈ found, ∃ line, signature.line = line + 1 ∧
        (Text.lines (project.moduleText index))[line]? =
          some ((if signature.owner.isSome then "function ".toList
            else "local function ".toList) ++ signature.display) := by
  intro written path last found
  have htext : written.text? path = some (project.moduleText index) :=
    text?_filePath habsolute hindex
  have hfound : found = (project.signatures index).map (Signature.withOrigin path) := by
    show ((Index.new rule).signaturesOf written path).1 = _
    rw [signaturesOf_new, Index.definedIn, htext, Option.map_some, Option.getD_some,
      ofText_moduleText]
  refine ⟨?_, hfound, hfound ▸ map_qualifiedName_signatures project index path, htext, ?_⟩
  · have hfile : written.isFile (Index.normal path) = true :=
      isFile_normal_filePath habsolute hindex
    have hchain := isChain_modules modified habsolute halone hextension hindex
    rw [Index.reachable, if_pos hfile]
    exact hchain.breadthFirst (Nat.le_max_left _ _) (Index.faithful_new rule [written])
  · intro signature hsignature
    rw [hfound] at hsignature
    obtain ⟨defined, hdefined, rfl⟩ := List.mem_map.mp hsignature
    rw [lines_moduleText]
    obtain ⟨line, hline, hstands⟩ := getElem?_lines_of_mem_signatures hdefined
    exact ⟨line, hline, hstands⟩

/-- Six modules of which four require the next one: from the first one all but the last are
reached. -/
theorem reachable_modules_six :
    let project : SampleProject := ⟨6, 2, 4, 1, 0⟩
    let directory : Path := ⟨"/w".toList⟩
    let rule : IndexRule := ⟨⟨"lua".toList, '?'⟩, true, 8⟩
    let written := project.writeInto directory 0 .empty
    directory.isAbsolute = true ∧ project.IsAlone directory .empty ∧
      ((Index.new rule).reachable written ⟨"/w/mod_0.lua".toList⟩).1 =
        [⟨"/w/mod_0.lua".toList⟩, ⟨"/w/mod_1.lua".toList⟩, ⟨"/w/mod_2.lua".toList⟩,
          ⟨"/w/mod_3.lua".toList⟩, ⟨"/w/mod_4.lua".toList⟩] ∧
      ((Index.new rule).signaturesOf written ⟨"/w/mod_2.lua".toList⟩).1.map
          (fun signature => (signature.qualifiedName, signature.line)) =
        [("func_2_0".toList, 5), ("func_2_1".toList, 13), ("M:method_2_0".toList, 21)] := by
  intro project directory rule written
  have habsolute : directory.isAbsolute = true := by decide
  have halone : project.IsAlone directory .empty := fun front name _ _ hfile => by cases hfile
  have hextension : rule.search.extension = "lua".toList := rfl
  have hfirst : filePath directory 0 = ⟨"/w/mod_0.lua".toList⟩ := by decide +kernel
  have hthird : filePath directory 2 = ⟨"/w/mod_2.lua".toList⟩ := by decide +kernel
  have hreached := (reachable_modules project 0 habsolute halone hextension (by decide : 0 < 6)).1
  have hfound := (reachable_modules project 0 habsolute halone hextension (by decide : 2 < 6)).2.1
  rw [hfirst] at hreached
  rw [hthird] at hfound
  refine ⟨habsolute, halone, hreached.trans ?_, ?_⟩
  · decide +kernel
  · rw [hfound]
    decide +kernel

end SampleProject

end LuaAssist

import LuaAssist.Proofs.Path.Ancestors
import LuaAssist.Proofs.Path.Writing
import LuaAssist.Proofs.Reach.Files
import LuaAssist.Proofs.SampleProject.Lines

/-!
# Where the modules of a sample project are found

The modules of a project are written into one directory, where each of them can be read. If no
other file there or above is called like a module, the name of a module leads from each of the
files to the file of this module.
-/

namespace LuaAssist

namespace SampleProject

variable {project : SampleProject} {directory : Path} {tree : FileTree} {index next : Nat}

/-! ## Names of files -/

/-- The name of the file of a module. -/
def fileName (index : Nat) : Text := moduleName index ++ ".lua".toList

/-- The path of a module in a directory. -/
def filePath (directory : Path) (index : Nat) : Path := directory.join ⟨fileName index⟩

/-- What begins like a module and has no slash is a name. -/
theorem isName_of_slashless {behind : Text} (hslash : '/' ∉ behind) :
    Path.IsName ("mod_".toList ++ behind) where
  piece := rfl
  inner := by
    intro c hc
    refine decide_eq_false fun heq => ?_
    rw [heq, List.mem_append] at hc
    exact hc.elim (by decide) hslash

/-- The name of a module is a name in a path. -/
theorem isName_moduleName (index : Nat) : Path.IsName (moduleName index) :=
  isName_of_slashless ((isMadeOf_digits [] index).not_mem (by decide))

/-- So is the name of its file. -/
theorem isName_fileName (index : Nat) : Path.IsName (fileName index) := by
  rw [fileName, moduleName, List.append_assoc]
  have hmade : IsMadeOf ".lua".toList (digits index ++ ".lua".toList) :=
    .append (isMadeOf_digits _ index) (by decide)
  exact isName_of_slashless (hmade.not_mem (by decide))

/-- Different modules have different files. -/
theorem fileName_injective : Function.Injective fileName := by
  intro index other heq
  exact Text.repr_toList_injective (List.append_cancel_left (List.append_cancel_right heq))

/-- No module is called like the file of one. -/
theorem moduleName_ne_fileName (index other : Nat) : moduleName index ≠ fileName other := by
  intro heq
  have hpoint : '.' ∈ moduleName index := by
    rw [heq, fileName]
    exact List.mem_append_right _ (by decide)
  exact (isMadeOf_moduleName index).not_mem (by decide) hpoint

/-- A module lies directly in the directory. -/
theorem placeOf_filePath (habsolute : directory.isAbsolute = true) (index : Nat) :
    Path.placeOf (filePath directory index).parts =
      Path.placeOf directory.parts ++ [fileName index] :=
  Path.placeOf_join_name habsolute (isName_fileName index)

/-- In an absolute directory modules have absolute paths. -/
theorem isAbsolute_filePath (habsolute : directory.isAbsolute = true) (index : Nat) :
    (filePath directory index).isAbsolute = true :=
  (Path.isAbsolute_join (isName_fileName index).isAbsolute).trans habsolute

/-- Files of different modules stand at different places. -/
theorem placeOf_filePath_injective (habsolute : directory.isAbsolute = true) :
    Function.Injective fun index => Path.placeOf (filePath directory index).parts := by
  intro index other heq
  simp only [placeOf_filePath habsolute] at heq
  exact fileName_injective (List.singleton_inj.mp (List.append_cancel_left heq))

/-! ## Writing -/

/-- The file of a module. -/
def moduleFile (project : SampleProject) (modified : Int) (index : Nat) : File :=
  ⟨Text.toUtf8 (project.moduleText index), modified⟩

/-- Writes the first modules of a project. -/
def writeFirst (project : SampleProject) (directory : Path) (modified : Int) (tree : FileTree)
    (count : Nat) : FileTree :=
  (List.range count).foldl (fun tree index =>
    tree.write (filePath directory index) (project.moduleFile modified index)) tree

/-- The whole project are its first modules. -/
theorem writeFirst_modules (project : SampleProject) (directory : Path) (modified : Int)
    (tree : FileTree) :
    project.writeFirst directory modified tree project.modules =
      project.writeInto directory modified tree := rfl

/-- The modules are written one after the other. -/
theorem writeFirst_succ (project : SampleProject) (directory : Path) (modified : Int)
    (tree : FileTree) (count : Nat) :
    project.writeFirst directory modified tree (count + 1) =
      (project.writeFirst directory modified tree count).write (filePath directory count)
        (project.moduleFile modified count) := by
  rw [writeFirst, List.range_succ, List.foldl_append]
  rfl

/-- Each module that was written can be read. -/
theorem read?_writeFirst (habsolute : directory.isAbsolute = true) (modified : Int)
    (tree : FileTree) {count : Nat} (hindex : index < count) :
    (project.writeFirst directory modified tree count).read? (filePath directory index) =
      some (project.moduleFile modified index) := by
  induction count with
  | zero => exact absurd hindex (Nat.not_lt_zero index)
  | succ count ih =>
    rw [writeFirst_succ]
    rcases Nat.lt_succ_iff_lt_or_eq.mp hindex with hbefore | rfl
    · refine FileTree.read?_write_of_ne (isAbsolute_filePath habsolute count) (ih hbefore) ?_ _
      exact fun hplace => absurd (placeOf_filePath_injective habsolute hplace) (by omega)
    · exact FileTree.read?_write_self _ (isAbsolute_filePath habsolute index) _

/-- What stands in the tree after that was there before, or it is a module. -/
theorem isSome_fileAt?_writeFirst (habsolute : directory.isAbsolute = true) {modified : Int}
    {count : Nat} {place : List Text}
    (hfile : ((project.writeFirst directory modified tree count).fileAt? place).isSome = true) :
    (tree.fileAt? place).isSome = true ∨
      ∃ index < count, place = Path.placeOf directory.parts ++ [fileName index] := by
  induction count with
  | zero => exact Or.inl hfile
  | succ count ih =>
    rw [writeFirst_succ, FileTree.fileAt?_write _ (isAbsolute_filePath habsolute count),
      placeOf_filePath habsolute] at hfile
    split at hfile
    case isTrue hplace => exact Or.inr ⟨count, Nat.lt_succ_self count, hplace⟩
    case isFalse =>
      refine (ih hfile).imp_right fun ⟨index, hindex, hplace⟩ => ?_
      exact ⟨index, Nat.lt_succ_of_lt hindex, hplace⟩

/-- No file in a directory or above it is called like a module, unless it has the name of the file
of one of the modules. -/
def IsAlone (project : SampleProject) (directory : Path) (tree : FileTree) : Prop :=
  ∀ front name, front <+: Path.placeOf directory.parts → "mod_".toList <+: name →
    (tree.fileAt? (front ++ [name])).isSome = true →
      ∃ index < project.modules, name = fileName index

/-- Writing the modules leaves them alone. -/
theorem IsAlone.writeInto (halone : project.IsAlone directory tree)
    (habsolute : directory.isAbsolute = true) (modified : Int) :
    project.IsAlone directory (project.writeInto directory modified tree) := by
  intro front name hfront hname hfile
  rcases isSome_fileAt?_writeFirst habsolute hfile with hfile | ⟨index, hindex, hplace⟩
  · exact halone front name hfront hname hfile
  · exact ⟨index, hindex, List.singleton_inj.mp (List.append_inj_right' hplace rfl)⟩

/-! ## Looking for a module -/

/-- The normal path of a module is told by the names of its directory. -/
theorem normal_filePath (habsolute : directory.isAbsolute = true) (index : Nat) :
    Index.normal (filePath directory index) =
      Path.ofParts (.root :: (Path.placeOf directory.parts ++ [fileName index]).map .name) := by
  rw [Index.normal, Path.normalize?_eq (isAbsolute_filePath habsolute index),
    placeOf_filePath habsolute, Option.getD_some]

/-- A module is looked for under its name and under that of its file. -/
theorem candidates_moduleName {rule : SearchRule} (hextension : rule.extension = "lua".toList)
    (index : Nat) :
    Resolve.candidates rule [] (moduleName index) = [moduleName index, fileName index] := by
  have hpoint : '.' ∉ moduleName index := (isMadeOf_moduleName index).not_mem (by decide)
  have hforms : Resolve.forms (moduleName index) = [moduleName index] := by
    rw [Resolve.forms, if_neg (by simp [hpoint])]
  have hfile : Resolve.withExtension rule.extension (moduleName index) = fileName index := by
    rw [hextension]
    rfl
  have hspellings : Resolve.spellings rule [] (moduleName index) =
      [moduleName index, fileName index] := by
    rw [Resolve.spellings, hforms, Resolve.withAndWithout, List.map_singleton, hfile]
    rfl
  have hknown : fileName index ∉ [moduleName index] := fun hmem =>
    moduleName_ne_fileName index index (List.mem_singleton.mp hmem).symm
  rw [Resolve.candidates, hspellings]
  simp [Resolve.addNew, (isName_moduleName index).ne_nil, (isName_fileName index).ne_nil, hknown]

/-- Neither a directory nor one above it has a file with the bare name of a module. -/
theorem IsAlone.isFile_bare (halone : project.IsAlone directory tree) {above : Path}
    (habove : above ∈
      (Path.ofParts (.root :: (Path.placeOf directory.parts).map .name)).ancestors) :
    tree.isFile (above.join ⟨moduleName index⟩) = false := by
  have hnames := directory.isName_of_mem_placeOf
  obtain ⟨front, hfront, rfl⟩ := Path.exists_front_of_mem_ancestors hnames habove
  have hfronts : ∀ name ∈ front, Path.IsName name := fun name hname =>
    hnames name (hfront.subset hname)
  have hbare : ∀ name ∈ front ++ [moduleName index], Path.IsName name :=
    List.forall_mem_append.mpr ⟨hfronts, by simpa using isName_moduleName index⟩
  rw [Path.join_names hfronts (isName_moduleName index), Bool.eq_false_iff]
  intro hfile
  obtain ⟨file, hread⟩ := Option.isSome_iff_exists.mp hfile
  have hstands := FileTree.fileAt?_of_read? hread
  rw [Path.parts_ofParts hbare, Path.placeOf_names] at hstands
  obtain ⟨other, -, hname⟩ := halone front (moduleName index) hfront (List.prefix_append _ _)
    (Option.isSome_iff_exists.mpr ⟨file, hstands⟩)
  exact moduleName_ne_fileName index other hname

/-- From the file of a module, the name of another leads to the file of this one. -/
theorem IsAlone.file?_moduleName (halone : project.IsAlone directory tree) {rule : SearchRule}
    (hextension : rule.extension = "lua".toList) (habsolute : directory.isAbsolute = true)
    (hnext : tree.isFile (Index.normal (filePath directory next)) = true) (index : Nat) :
    Resolve.file? tree rule [] (Index.normal (filePath directory index)) (moduleName next) =
      some (Index.normal (filePath directory next)) := by
  have hnames := directory.isName_of_mem_placeOf
  have hfile : ∀ name ∈ Path.placeOf directory.parts ++ [fileName index], Path.IsName name :=
    List.forall_mem_append.mpr ⟨hnames, by simpa using isName_fileName index⟩
  let base := Path.ofParts (.root :: (Path.placeOf directory.parts).map .name)
  have hparent : (Index.normal (filePath directory index)).parent? = some base := by
    rw [normal_filePath habsolute, Path.parent?_eq (Path.parts_ofParts hfile), if_neg (by simp),
      List.map_append, List.map_singleton, List.dropLast_concat]
  have hbare : (Resolve.places base ⟨moduleName next⟩).find? tree.isFile = none := by
    rw [Resolve.places, if_neg (by simp [(isName_moduleName next).isAbsolute]),
      List.find?_eq_none]
    intro place hplace
    obtain ⟨above, habove, rfl⟩ := List.mem_map.mp hplace
    rw [halone.isFile_bare habove]
    decide
  have hfound : (Resolve.places base ⟨fileName next⟩).find? tree.isFile =
      some (Index.normal (filePath directory next)) := by
    obtain ⟨above, habove⟩ := Path.exists_ancestors_eq hnames
    rw [Resolve.places, if_neg (by simp [(isName_fileName next).isAbsolute]), habove, List.map_cons,
      Path.join_names hnames (isName_fileName next), ← normal_filePath habsolute]
    exact List.find?_cons_of_pos hnext
  have hplaces : (Resolve.allPlaces rule [] (Index.normal (filePath directory index))
      (moduleName next)).find? tree.isFile = some (Index.normal (filePath directory next)) := by
    rw [Resolve.allPlaces, hparent]
    dsimp only
    rw [candidates_moduleName hextension, List.flatMap_cons, List.flatMap_singleton,
      List.find?_append, hbare, hfound]
    rfl
  have hown := Index.normalize?_eq_normal (isAbsolute_filePath habsolute next)
  have hnormal := Path.isNormal_of_normalize? (isAbsolute_filePath habsolute next) hown
  rw [Resolve.file?, hplaces]
  exact hnormal.normalize?_eq

end SampleProject

end LuaAssist

import LuaAssist.Proofs.Path.Places
import LuaAssist.Proofs.Reach.Distances
import LuaAssist.Proofs.Session.Readings

/-!
# What an open text can use

The files that an open text reaches are told by its references, their references, and so on, as
they lead to files in the tree. Each is named by its normal path, so it is found once, and the file
at the text's own place is never one of them. What the text can use are its own functions, those
of each such file and the standard library.
-/

namespace LuaAssist

/-- A search depends on its step at the places that it can meet alone. -/
theorem Reach.breadthFirst_congr {α κ σ : Type} [DecidableEq κ] {key : α → κ} {domain : List κ}
    {expand other : α → σ → List α × σ} {post : α → Prop}
    (hsame : ∀ place, post place → expand place = other place)
    (hpost : ∀ place state, post place → ∀ next ∈ (expand place state).1, post next)
    {roots : List α} (hroots : ∀ root ∈ roots, post root) (visited : List κ) (state : σ) :
    breadthFirst key domain expand roots visited state =
      breadthFirst key domain other roots visited state := by
  have hqueue : ∀ place ∈ (discover key domain visited roots).1, post place :=
    fun place hmem => hroots place (mem_of_mem_discover hmem)
  show visit key domain expand (discover key domain visited roots).1
      (discover key domain visited roots).2 state =
    visit key domain other (discover key domain visited roots).1
      (discover key domain visited roots).2 state
  generalize (discover key domain visited roots).1 = queue at hqueue ⊢
  generalize (discover key domain visited roots).2 = visited
  induction queue, visited, state using visit.induct key domain expand with
  | case1 visited state => rw [visit, visit]
  | case2 visited state place waiting _ _ _ _ _ ih =>
    have hplace := hqueue place List.mem_cons_self
    have hrest := ih fun next hmem => by
      rcases List.mem_append.mp hmem with hmem | hmem
      · exact hqueue next (List.mem_cons_of_mem _ hmem)
      · exact hpost place state hplace next (mem_of_mem_discover hmem)
    rw [visit, visit, ← hsame place hplace, hrest]

namespace Resolve

variable {tree : FileTree} {rule : SearchRule} {patterns : List Text} {requiring path : Path}
  {name : Text}

/-- A module leads to a file of the tree. -/
theorem isFile_of_file? (hfile : file? tree rule patterns requiring name = some path) :
    tree.isFile path = true := by
  obtain ⟨found, hfound, hnormal⟩ := Option.bind_eq_some_iff.mp hfile
  have hexists : tree.isFile found = true := List.find?_some hfound
  obtain ⟨file, hread⟩ := Option.isSome_iff_exists.mp hexists
  exact Option.isSome_iff_exists.mpr ⟨file, FileTree.read?_normalize hread hnormal⟩

/-- A normal path that leads to a file is one of the paths of the tree. -/
theorem mem_paths_of_isFile (hnormal : path.IsNormal) (hfile : tree.isFile path = true) :
    path ∈ tree.paths := by
  obtain ⟨file, hread⟩ := Option.isSome_iff_exists.mp hfile
  have hmem := FileTree.mem_files_of_fileAt? (FileTree.fileAt?_of_read? hread)
  exact List.mem_map.mpr ⟨_, hmem, hnormal.ofParts_placeOf⟩

/-- Among normal paths no path is left out. -/
theorem mem_foldl_addPath {paths known : List Path} (hpaths : ∀ p ∈ paths, p.IsNormal)
    (hknown : ∀ p ∈ known, p.IsNormal) :
    path ∈ paths.foldl addPath known ↔ path ∈ known ∨ path ∈ paths := by
  refine ⟨mem_of_mem_foldl_addPath, ?_⟩
  induction paths generalizing known with
  | nil => exact fun hmem => hmem.resolve_right List.not_mem_nil
  | cons first rest ih =>
    obtain ⟨hfirst, hrest⟩ := List.forall_mem_cons.mp hpaths
    have hadded : (∀ p ∈ addPath known first, p.IsNormal) ∧
        (path ∈ known ∨ path = first → path ∈ addPath known first) := by
      unfold addPath
      split
      · rename_i hsame
        refine ⟨hknown, Or.rec id ?_⟩
        rintro rfl
        obtain ⟨other, hother, hparts⟩ := List.any_eq_true.mp hsame
        have hparts : path.parts = other.parts := by simpa [Path.same] using hparts
        rwa [← hfirst.ofParts_parts, hparts, (hknown other hother).ofParts_parts]
      · refine ⟨List.forall_mem_append.mpr ⟨hknown, by simpa using hfirst⟩, ?_⟩
        simp
    intro hmem
    refine ih hrest hadded.1 ?_
    rcases hmem with hmem | hmem
    · exact Or.inl (hadded.2 (Or.inl hmem))
    · rcases List.mem_cons.mp hmem with heq | hmem
      · exact Or.inl (hadded.2 (Or.inr heq))
      · exact Or.inr hmem

/-- The paths are those to which the references lead. -/
theorem mem_paths_iff {declared : Declarations} :
    path ∈ (dependencies tree rule requiring declared).paths ↔
      ∃ reference ∈ declared.references,
        file? tree rule declared.patterns requiring reference.name = some path := by
  have hresolved : path ∈ (dependencies tree rule requiring declared).resolved.map Resolved.path ↔
      ∃ reference ∈ declared.references,
        file? tree rule declared.patterns requiring reference.name = some path := by
    simp [dependencies]
  rw [← hresolved]
  refine (mem_foldl_addPath (fun p hmem => ?_) (List.forall_mem_nil _)).trans (by simp)
  obtain ⟨resolved, hresolved, rfl⟩ := List.mem_map.mp hmem
  obtain ⟨reference, _, hreference⟩ := List.mem_filterMap.mp hresolved
  obtain ⟨path, hfile, rfl⟩ := Option.map_eq_some_iff.mp hreference
  exact isNormal_of_file? hfile

end Resolve

namespace Index

/-! ## The files that are reached -/

/-- A text that belongs at a path refers to a file. -/
def Requires (tree : FileTree) (rule : SearchRule) (path : Path) (text : Text) (file : Path) :
    Prop :=
  let declared := Require.declarations rule.placeholder text
  ∃ reference ∈ declared.references,
    Resolve.file? tree rule declared.patterns path reference.name = some file

/-- A text that belongs at a path leads to a file, over files that stand at other places. -/
inductive Reaches (tree : FileTree) (rule : SearchRule) (path : Path) (text : Text) :
    Path → Prop
  | direct {file : Path} (hfile : Requires tree rule path text file)
      (hother : Path.placeOf file.parts ≠ Path.placeOf path.parts) :
      Reaches tree rule path text file
  | further {file next : Path} {content : Text} (hreached : Reaches tree rule path text file)
      (hcontent : tree.text? file = some content) (hnext : Requires tree rule file content next)
      (hother : Path.placeOf next.parts ≠ Path.placeOf path.parts) :
      Reaches tree rule path text next

variable {tree : FileTree} {rule : IndexRule} {path file : Path} {text : Text}

/-- The references of a file lead to a file: the file can be read, and what it says does. -/
theorem exists_requires_iff :
    file ∈ (Resolve.dependencies tree rule.search path
        (((tree.text? path).map (Require.declarations rule.search.placeholder)).getD
          ⟨[], []⟩)).paths ↔
      ∃ content, tree.text? path = some content ∧
        Requires tree rule.search path content file := by
  rw [Resolve.mem_paths_iff]
  cases tree.text? path with
  | none => simp
  | some content => simp [Requires]

/-- The files that the file at some parts refers to, by their parts. -/
def edges (tree : FileTree) (rule : SearchRule) (parts : List Path.Part) :
    List (List Path.Part) :=
  let file := Path.ofParts parts
  let declared := ((tree.text? file).map (Require.declarations rule.placeholder)).getD ⟨[], []⟩
  (Resolve.dependencies tree rule file declared).paths.map Path.parts

/-- References lead to files of the tree. -/
theorem mem_domain_of_mem_paths {declared : Declarations}
    (hmem : file ∈ (Resolve.dependencies tree rule.search path declared).paths) :
    file.IsNormal ∧ tree.isFile file = true ∧ file.parts ∈ tree.paths.map Path.parts := by
  have hnormal := Resolve.isNormal_of_mem_paths hmem
  obtain ⟨_, _, hfile⟩ := Resolve.mem_paths_iff.mp hmem
  have hexists := Resolve.isFile_of_file? hfile
  exact ⟨hnormal, hexists, List.mem_map_of_mem (Resolve.mem_paths_of_isFile hnormal hexists)⟩

/-- What is reached is required by a text. -/
theorem Reaches.exists_requires (hreaches : Reaches tree rule.search path text file) :
    ∃ requiring content, Requires tree rule.search requiring content file := by
  cases hreaches with
  | direct hfile hother => exact ⟨path, text, hfile⟩
  | further hreached hcontent hnext hother => exact ⟨_, _, hnext⟩

/-- What is reached is a normal path. -/
theorem Reaches.isNormal (hreaches : Reaches tree rule.search path text file) : file.IsNormal := by
  obtain ⟨_, _, _, _, hfile⟩ := hreaches.exists_requires
  exact Resolve.isNormal_of_file? hfile

/-- What is reached is a file of the tree. -/
theorem Reaches.isFile (hreaches : Reaches tree rule.search path text file) :
    tree.isFile file = true := by
  obtain ⟨_, _, _, _, hfile⟩ := hreaches.exists_requires
  exact Resolve.isFile_of_file? hfile

/-- What is reached stands at another place than the text. -/
theorem Reaches.elsewhere (hreaches : Reaches tree rule.search path text file) :
    Path.placeOf file.parts ≠ Path.placeOf path.parts := by
  cases hreaches with
  | direct _ hother => exact hother
  | further _ _ _ hother => exact hother

/-- An absolute path has a normal form. -/
theorem normalize?_eq_normal (habsolute : path.isAbsolute = true) :
    path.normalize? = some (normal path) := by
  rw [normal, Path.normalize?_eq habsolute, Option.getD_some]

/-- The normal form of an absolute path is normal. -/
theorem isNormal_normal (habsolute : path.isAbsolute = true) : (normal path).IsNormal :=
  Path.isNormal_of_normalize? habsolute (normalize?_eq_normal habsolute)

/-- The normal form of an absolute path leads to the same place. -/
theorem placeOf_normal (habsolute : path.isAbsolute = true) :
    Path.placeOf (normal path).parts = Path.placeOf path.parts :=
  Path.placeOf_of_normalize? habsolute (normalize?_eq_normal habsolute)

/-- The parts of an absolute path in its normal form are not those of another normal path exactly
if the places differ. -/
theorem not_mem_avoided_iff (habsolute : path.isAbsolute = true) (hnormal : file.IsNormal) :
    file.parts ∉ [normal path].map Path.parts ↔
      Path.placeOf file.parts ≠ Path.placeOf path.parts := by
  rw [← placeOf_normal habsolute, List.map_singleton, List.mem_singleton]
  refine not_congr ⟨fun heq => heq ▸ rfl, fun heq => ?_⟩
  rw [hnormal.eq_of_placeOf (isNormal_normal habsolute) heq]

/-- The walks of the search are the ways over references. -/
theorem leads_iff (habsolute : path.isAbsolute = true) {k : List Path.Part} :
    (∃ length, Reach.Leads (edges tree rule.search)
        ((Resolve.dependencies tree rule.search path
          (Require.declarations rule.search.placeholder text)).paths.map Path.parts)
        ([normal path].map Path.parts) length k) ↔
      ∃ file, file.parts = k ∧ Reaches tree rule.search path text file := by
  constructor
  · rintro ⟨length, hwalk⟩
    induction hwalk with
    | root hroot hfree =>
      obtain ⟨file, hmem, rfl⟩ := List.mem_map.mp hroot
      have hnormal := Resolve.isNormal_of_mem_paths hmem
      exact ⟨file, rfl, .direct (Resolve.mem_paths_iff.mp hmem)
        ((not_mem_avoided_iff habsolute hnormal).mp hfree)⟩
    | edge _ hedge hfree ih =>
      obtain ⟨file, rfl, hreached⟩ := ih
      obtain ⟨next, hmem, rfl⟩ := List.mem_map.mp hedge
      rw [hreached.isNormal.ofParts_parts] at hmem
      have hnormal := Resolve.isNormal_of_mem_paths hmem
      obtain ⟨content, hcontent, hnext⟩ := exists_requires_iff.mp hmem
      exact ⟨next, rfl, .further hreached hcontent hnext
        ((not_mem_avoided_iff habsolute hnormal).mp hfree)⟩
  · rintro ⟨file, rfl, hreached⟩
    have hfree : ∀ {file : Path}, file.IsNormal →
        Path.placeOf file.parts ≠ Path.placeOf path.parts →
        file.parts ∉ [normal path].map Path.parts :=
      fun hnormal => (not_mem_avoided_iff habsolute hnormal).mpr
    induction hreached with
    | direct hfile hother =>
      have hmem := Resolve.mem_paths_iff.mpr hfile
      exact ⟨0, .root (List.mem_map_of_mem hmem)
        (hfree (Resolve.isNormal_of_mem_paths hmem) hother)⟩
    | further hreached hcontent hnext hother ih =>
      obtain ⟨length, hwalk⟩ := ih
      have hmem := exists_requires_iff.mpr ⟨_, hcontent, hnext⟩
      have hedge := List.mem_map_of_mem (f := Path.parts) hmem
      rw [← hreached.isNormal.ofParts_parts] at hedge
      exact ⟨length + 1, .edge hwalk (by simpa [edges] using hedge)
        (hfree (Resolve.isNormal_of_mem_paths hmem) hother)⟩

/-- An open text reaches each file to which its references lead over other places, once, and no
other. -/
theorem mem_textReachable_new (habsolute : path.isAbsolute = true) :
    let files := ((new rule).textReachable tree path text).1
    files.Nodup ∧ ∀ file, file ∈ files ↔ Reaches tree rule.search path text file := by
  intro files
  have hlooks : ∀ look ∈ [tree], look.Precedes tree := by
    simpa using tree.precedes_self
  have htree : tree ∈ [tree] := List.mem_singleton_self tree
  have hnew := faithful_new rule [tree]
  let roots := (Resolve.dependencies tree rule.search path
    (Require.declarations rule.search.placeholder text)).paths
  let index := ((new rule).textDependencies tree path text).2
  have hindex : index.Faithful rule [tree] :=
    (askAlike_textDependencies tree path text _ _ hnew hnew).2.2
  -- Places are named by normal paths, which their parts determine.
  have hfiles : files = (Reach.breadthFirst Path.parts (tree.paths.map Path.parts)
      (fun place => neighbours tree (Path.ofParts place.parts)) roots
      ([normal path].map Path.parts) index).1 := by
    have hsame : ∀ place : Path, place.IsNormal →
        neighbours tree place = neighbours tree (Path.ofParts place.parts) := by
      intro place hplace
      rw [hplace.ofParts_parts]
    refine congrArg Prod.fst (Reach.breadthFirst_congr hsame ?_ ?_ _ _)
    · exact fun _ _ _ _ => Resolve.isNormal_of_mem_paths
    · exact fun _ => Resolve.isNormal_of_mem_paths
  have hnormal : ∀ file ∈ files, file.IsNormal :=
    (askAlike_textReachable hlooks htree path text _ _ hnew hnew).2.1
  have hfollows : Reach.Follows (Faithful rule [tree]) Path.parts (edges tree rule.search)
      fun place => neighbours tree (Path.ofParts place.parts) := by
    intro place state hstate
    refine ⟨?_, (askAlike_neighbours hlooks htree _ _ _ hstate hstate).2.2⟩
    rw [hstate.neighbours_fst hlooks]
    rfl
  have hdomain : ∀ parts ∈ tree.paths.map Path.parts, ∀ next ∈ edges tree rule.search parts,
      next ∈ tree.paths.map Path.parts := by
    intro parts _ next hnext
    obtain ⟨file, hmem, rfl⟩ := List.mem_map.mp hnext
    exact (mem_domain_of_mem_paths hmem).2.2
  obtain ⟨hnodup, hreached⟩ := Reach.mem_breadthFirst_iff hfollows hdomain
    (fun root hmem => (mem_domain_of_mem_paths hmem).2.2) ([normal path].map Path.parts) hindex
  rw [← hfiles] at hnodup hreached
  refine ⟨hnodup.of_map, fun file => ?_⟩
  constructor
  · intro hmem
    obtain ⟨other, hparts, hother⟩ :=
      (leads_iff habsolute).mp ((hreached file.parts).mp (List.mem_map_of_mem hmem))
    rwa [← (hnormal file hmem).ofParts_parts, ← hparts, hother.isNormal.ofParts_parts]
  · intro hfile
    obtain ⟨other, hmem, hparts⟩ := List.mem_map.mp
      ((hreached file.parts).mpr ((leads_iff habsolute).mpr ⟨file, rfl, hfile⟩))
    rwa [← hfile.isNormal.ofParts_parts, ← hparts, (hnormal other hmem).ofParts_parts]

/-! ## What can be used -/

/-- The functions of a file, each with the file as its origin. -/
def definedIn (tree : FileTree) (file : Path) : List Signature :=
  ((tree.text? file).map fun content =>
    (Signature.ofText content).map (Signature.withOrigin file)).getD []

/-- An index without wrong values gives the functions of files one file after the other. -/
theorem Faithful.signaturesOfAll_fst {index : Index} {looks : List FileTree}
    (hlooks : ∀ look ∈ looks, look.Precedes tree) (htree : tree ∈ looks)
    (hfaithful : index.Faithful rule looks) {files : List Path}
    (hfiles : ∀ file ∈ files, file.IsNormal) :
    (index.signaturesOfAll tree files).1 = files.flatMap (definedIn tree) := by
  induction files generalizing index with
  | nil => rfl
  | cons file rest ih =>
    obtain ⟨hnormal, hrest⟩ := List.forall_mem_cons.mp hfiles
    have hhere : (index.signaturesOf tree file).1 = definedIn tree file := by
      rw [hfaithful.signaturesOf_fst hlooks hnormal, ← parse_eq_signaturesAt hnormal]
      rfl
    have hnext := (askAlike_signaturesOf hlooks htree hnormal _ _ hfaithful hfaithful).2.2
    rw [List.flatMap_cons, ← hhere, ← ih hnext hrest]
    rfl

/-- What an open text can use in a new index: its own functions, those of each file that it
reaches, one file after the other, and the standard library if that is wanted. The files stand at
places of their own, none of them at that of the text, and they are all that its references lead
to over other places. -/
theorem textVisible_new (rule : IndexRule) (tree : FileTree) {path : Path}
    (habsolute : path.isAbsolute = true) (text : Text) :
    let files := ((new rule).textReachable tree path text).1
    ((new rule).textVisible tree path text).1 =
        Signature.ofText text ++ files.flatMap (definedIn tree) ++
          (if rule.builtins then StandardLibrary.signatures else []) ∧
      (files.map fun file => Path.placeOf file.parts).Nodup ∧
      (∀ file ∈ files,
        tree.isFile file = true ∧ Path.placeOf file.parts ≠ Path.placeOf path.parts) ∧
      ∀ file, file ∈ files ↔ Reaches tree rule.search path text file := by
  intro files
  have hlooks : ∀ look ∈ [tree], look.Precedes tree := by
    simpa using tree.precedes_self
  have htree : tree ∈ [tree] := List.mem_singleton_self tree
  have hnew := faithful_new rule [tree]
  obtain ⟨hnodup, hreaches⟩ : files.Nodup ∧
      ∀ file, file ∈ files ↔ Reaches tree rule.search path text file :=
    mem_textReachable_new habsolute
  have hnormal : ∀ file ∈ files, file.IsNormal :=
    fun file hmem => ((hreaches file).mp hmem).isNormal
  refine ⟨?_, ?_, fun file hmem => ?_, hreaches⟩
  · -- The own functions are read first, and leave an index without wrong values.
    have hown : ((new rule).textSignaturesOf text).1 = Signature.ofText text :=
      hnew.textSignatures.get_fst text
    have hread := (askAlike_textSignaturesOf text _ _ hnew hnew).2.2
    obtain ⟨hfiles, _, hfollowed⟩ := askAlike_textReachable hlooks htree path text _ _ hread hnew
    have hfound := hfollowed.signaturesOfAll_fst hlooks htree hnormal
    have hlast := (askAlike_signaturesOfAll hlooks htree hnormal _ _ hfollowed hfollowed).2.2
    unfold textVisible
    simp only [hown, hfiles]
    rw [hfound, builtins, hlast.ruled]
  · refine hnodup.map_on fun first hfirst second hsecond hplace => ?_
    exact (hnormal first hfirst).eq_of_placeOf (hnormal second hsecond) hplace
  · have hfile := (hreaches file).mp hmem
    exact ⟨hfile.isFile, hfile.elsewhere⟩

/-- A module that goes back to the text at another spelling of its path, and to itself. -/
def returning : FileTree :=
  let main := Text.toUtf8 "function saved() end".toList
  let module := Text.toUtf8 "require('../p/main') require('lib')\nfunction f() end".toList
  ⟨[(["p".toList, "main.lua".toList], ⟨main, 0⟩), (["p".toList, "lib.lua".toList], ⟨module, 0⟩)],
    [["p".toList]], 1⟩

/-- The text at the path of the one file, under another spelling, requires the other file. -/
theorem textVisible_new_returning :
    let rule : IndexRule := ⟨⟨"lua".toList, '?'⟩, false, 4⟩
    let path : Path := ⟨"/p/./main.lua".toList⟩
    let text := "require('lib')\nfunction edited() end".toList
    let files := ((new rule).textReachable returning path text).1
    path.isAbsolute = true ∧ ⟨"/p/lib.lua".toList⟩ ∈ files ∧ ⟨"/p/main.lua".toList⟩ ∉ files ∧
      ∃ signature ∈ ((new rule).textVisible returning path text).1,
        signature.name = ['f'] ∧ signature.origin = some ⟨"/p/lib.lua".toList⟩ := by
  intro rule path text files
  have habsolute : path.isAbsolute = true := rfl
  obtain ⟨hvisible, _, hplaces, hfiles⟩ := textVisible_new rule returning habsolute text
  have hlib : ⟨"/p/lib.lua".toList⟩ ∈ files := by
    refine (hfiles _).mpr (.direct ?_ (by decide +kernel))
    exact ⟨⟨"lib".toList, 0, 9⟩, by decide +kernel, by decide +kernel⟩
  refine ⟨habsolute, hlib, fun hmain => ?_, ?_⟩
  · exact (hplaces _ hmain).2 (by decide +kernel)
  · obtain ⟨signature, hsignature, hname⟩ :
        ∃ signature ∈ definedIn returning ⟨"/p/lib.lua".toList⟩,
          signature.name = ['f'] ∧ signature.origin = some ⟨"/p/lib.lua".toList⟩ := by
      decide +kernel
    refine ⟨signature, ?_, hname⟩
    rw [hvisible]
    exact List.mem_append_left _ (List.mem_append_right _ (List.mem_flatMap_of_mem hlib hsignature))

end Index

end LuaAssist

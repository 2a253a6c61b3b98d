import LuaAssist.Proofs.Path.Places

/-!
# The canonical form of a path

The normal form of an absolute path is absolute, has no steps that stay or go back, and is its own
normal form. It stands for the path as the directory of relative paths, and it leads to whatever the
path leads to. So two paths that lead somewhere in a tree have one normal form exactly if they lead
to the same place.
-/

namespace LuaAssist

namespace Path

variable {path normal relative : Path} {names : List Text}

/-! ## Names without a root -/

/-- Nothing stands in front of the first slash of an absolute path. -/
theorem head?_pieces (habsolute : path.isAbsolute = true) : path.pieces.head? = some [] := by
  have hslash : path.text.head? = some '/' := by simpa [isAbsolute] using habsolute
  obtain ⟨rest, hrest⟩ := List.head?_eq_some_iff.mp hslash
  rw [pieces, Text.head?_splitOn, hrest]
  rfl

/-- Names that are joined are the pieces of what is written. -/
theorem pieces_ofNames (hnames : ∀ name ∈ names, IsName name) (hne : names ≠ []) :
    (ofParts (names.map .name)).pieces = names := by
  obtain ⟨first, rest, rfl⟩ := List.exists_cons_of_ne_nil hne
  have htexts : ((first :: rest).map Part.name).map Part.text = first :: rest := by
    rw [List.map_map]
    exact List.map_id' _
  have hwritten : (ofParts ((first :: rest).map .name)).text = Text.join ['/'] (first :: rest) :=
    congrArg (Text.join ['/']) htexts
  rw [pieces, hwritten]
  exact Text.splitOn_join rfl hne fun name hname => (hnames name hname).inner

/-- They are read again as the parts of a relative path. -/
theorem parts_ofNames (hnames : ∀ name ∈ names, IsName name) (hne : names ≠ []) :
    (ofParts (names.map .name)).parts = names.map .name := by
  have hpieces := pieces_ofNames hnames hne
  have hread : names.filterMap Part.ofPiece? = names.map .name := by
    have hspelled := filterMap_ofPiece? (isSpelled_names hnames)
    rwa [List.map_map, show Part.text ∘ Part.name = id from rfl, List.map_id] at hspelled
  obtain ⟨first, rest, rfl⟩ := List.exists_cons_of_ne_nil hne
  have hfirst := hnames first List.mem_cons_self
  unfold parts
  rw [hpieces, hread]
  split
  · rename_i habsolute
    have hempty := head?_pieces habsolute
    rw [hpieces, List.head?_cons] at hempty
    exact absurd (Option.some.inj hempty) hfirst.ne_nil
  · split
    · rename_i hcurrent
      rw [List.head?_cons] at hcurrent
      have hpiece := hfirst.piece
      rw [Option.some.inj hcurrent] at hpiece
      cases hpiece
    · rfl

/-- Normalising keeps names as they are. -/
theorem normalParts_names (names : List Text) :
    normalParts (names.map .name) = names.map .name := by
  have hbase : normalizeStep [] .parent = [] := rfl
  have hfold := foldl_normalizeStep hbase (by simp : Part.root ∉ names.map Part.name) []
  rw [List.reverse_nil, foldl_enter_names, List.nil_append, List.append_nil] at hfold
  exact (congrArg List.reverse hfold).trans (by simp)

/-! ## The normal form -/

/-- A normal form is its own normal form. -/
theorem normalize?_of_normalize? (hnormal : path.normalize? = some normal) :
    normal.normalize? = some normal := by
  by_cases habsolute : path.isAbsolute = true
  · exact (isNormal_of_normalize? habsolute hnormal).normalize?_eq
  · have hparts : normalParts path.parts = (placeOf path.parts).map .name := by
      rw [normalParts_eq, base, if_neg habsolute, List.nil_append]
    have hnames := path.isName_of_mem_placeOf
    rw [normalize?, hparts] at hnormal
    generalize placeOf path.parts = names at hnames hnormal
    cases names with
    | nil => cases hnormal
    | cons first rest =>
      have hspelled : ofParts ((first :: rest).map .name) = normal := Option.some.inj hnormal
      rw [← hspelled, normalize?, parts_ofNames hnames (List.cons_ne_nil _ _), normalParts_names]
      rfl

/-- As a directory of relative paths the normal form stands for the path. -/
theorem normalize?_join (habsolute : path.isAbsolute = true)
    (hnormal : path.normalize? = some normal) (hrelative : relative.isAbsolute = false) :
    (normal.join relative).normalize? = (path.join relative).normalize? := by
  have hplain := (isNormal_of_normalize? habsolute hnormal).isAbsolute
  have hjoin {directory : Path} (hrooted : directory.isAbsolute = true) :
      (directory.join relative).isAbsolute = true := (isAbsolute_join hrelative).trans hrooted
  rw [normalize?_eq (hjoin hplain), normalize?_eq (hjoin habsolute), placeOf_join hplain hrelative,
    placeOf_join habsolute hrelative, placeOf_of_normalize? habsolute hnormal]

end Path

namespace FileTree

variable {tree : FileTree} {path other normal : Path} {place spot : List Text}

/-! ## Where the normal form leads -/

/-- An absolute path leads to a place at which there is a directory or a regular file. -/
structure LeadsTo (tree : FileTree) (path : Path) (place : List Text) : Prop where
  isAbsolute : path.isAbsolute = true
  follow : tree.follow? [] path.pieces = some place
  found : tree.isDirectory place = true ∨ ∃ file, tree.fileAt? place = some file

/-- The place to which a path leads is that of its parts. -/
theorem LeadsTo.placeOf (hleads : tree.LeadsTo path place) : Path.placeOf path.parts = place :=
  placeOf_of_follow? hleads.isAbsolute hleads.follow

/-- The normal form leads to the same directory or file. -/
theorem LeadsTo.normalize (hleads : tree.LeadsTo path place)
    (hnormal : path.normalize? = some normal) : tree.LeadsTo normal place where
  isAbsolute := (Path.isNormal_of_normalize? hleads.isAbsolute hnormal).isAbsolute
  follow := follow?_normalize hleads.isAbsolute hleads.follow hnormal
  found := hleads.found

/-- Two paths that lead somewhere have one normal form exactly if they lead to the same place. -/
theorem LeadsTo.normalize?_eq_iff (hleads : tree.LeadsTo path place)
    (hother : tree.LeadsTo other spot) : path.normalize? = other.normalize? ↔ place = spot := by
  rw [← hleads.placeOf, ← hother.placeOf]
  constructor
  · intro hsame
    have hnormal := Path.normalize?_eq hother.isAbsolute
    rw [← Path.placeOf_of_normalize? hother.isAbsolute hnormal,
      Path.placeOf_of_normalize? hleads.isAbsolute (hsame.trans hnormal)]
  · intro hplace
    rw [Path.normalize?_eq hleads.isAbsolute, Path.normalize?_eq hother.isAbsolute, hplace]

end FileTree

namespace Path

/-! ## The canonical form -/

/-- One path stands for another: it is absolute and without steps that stay or go back, in the
directory of relative paths it has the same normal form, and in every tree it leads to the directory
or file to which the other leads. -/
structure StandsFor (normal path : Path) : Prop where
  isAbsolute : normal.isAbsolute = true
  plain : ∀ piece ∈ normal.pieces, piece ≠ ['.'] ∧ piece ≠ ['.', '.']
  named : ∀ part ∈ normal.parts, part ≠ .current ∧ part ≠ .parent
  join : ∀ relative : Path, relative.isAbsolute = false →
    ∃ joined, (path.join relative).normalize? = some joined ∧
      (normal.join relative).normalize? = some joined
  leadsTo : ∀ (tree : FileTree) (place : List Text),
    tree.LeadsTo path place → tree.LeadsTo normal place

/-- An absolute path has a normal form that stands for it. Normalising it, or any other path, once
more changes nothing, and where two paths lead somewhere in a tree, their normal forms tell whether
they lead to the same place. -/
theorem normalize?_canonical :
    (∀ path : Path, path.isAbsolute = true →
      ∃ normal, path.normalize? = some normal ∧ normal.StandsFor path) ∧
    (∀ path normal : Path, path.normalize? = some normal → normal.normalize? = some normal) ∧
    (∀ (tree : FileTree) (path other : Path) (place spot : List Text),
      tree.LeadsTo path place → tree.LeadsTo other spot →
        (path.normalize? = other.normalize? ↔ place = spot)) := by
  refine ⟨fun path habsolute => ?_, fun path normal => normalize?_of_normalize?,
    fun tree path other place spot => FileTree.LeadsTo.normalize?_eq_iff⟩
  have hnormal := normalize?_eq habsolute
  have hplain := isNormal_of_normalize? habsolute hnormal
  refine ⟨_, hnormal, hplain.isAbsolute, hplain.plain, hplain.named, ?_, ?_⟩
  · intro relative hrelative
    rw [normalize?_join habsolute hnormal hrelative]
    have hjoined := normalize?_eq ((isAbsolute_join hrelative).trans habsolute)
    exact ⟨_, hjoined, hjoined⟩
  · intro tree place hleads
    exact hleads.normalize hnormal

/-- A path that climbs beyond the root, stays, and goes back from a directory, and a second path to
the same file. -/
theorem normalize?_canonical_climbing :
    let path : Path := ⟨"/../p/./src/..//src/m.lua".toList⟩
    let other : Path := ⟨"/p/src/deep/../m.lua".toList⟩
    let place := ["p".toList, "src".toList, "m.lua".toList]
    let directories := [["p".toList], ["p".toList, "src".toList],
      ["p".toList, "src".toList, "deep".toList]]
    let tree : FileTree := ⟨[(place, ⟨[], 0⟩)], directories, 0⟩
    path.isAbsolute = true ∧ tree.LeadsTo path place ∧ tree.LeadsTo other place ∧
      path.normalize? = other.normalize? ∧
      ∃ normal, path.normalize? = some normal ∧ normal.text = "/p/src/m.lua".toList ∧
        normal.normalize? = some normal ∧ tree.LeadsTo normal place ∧
        ∃ joined, (path.join ⟨"../../q".toList⟩).normalize? = some joined ∧
          (normal.join ⟨"../../q".toList⟩).normalize? = some joined := by
  intro path other place directories tree
  obtain ⟨hstands, hagain, hsame⟩ := normalize?_canonical
  have habsolute : path.isAbsolute = true := rfl
  have hfile : tree.isDirectory place = true ∨ ∃ file, tree.fileAt? place = some file :=
    Or.inr ⟨⟨[], 0⟩, by decide⟩
  have hleads : tree.LeadsTo path place := ⟨habsolute, by decide, hfile⟩
  have hother : tree.LeadsTo other place := ⟨rfl, by decide, hfile⟩
  obtain ⟨normal, hnormal, hpath⟩ := hstands path habsolute
  have htext : path.normalize?.map Path.text = some "/p/src/m.lua".toList := by decide
  rw [hnormal] at htext
  exact ⟨habsolute, hleads, hother, (hsame tree path other place place hleads hother).mpr rfl,
    normal, hnormal, Option.some.inj htext, hagain path normal hnormal,
    hpath.leadsTo tree place hleads, hpath.join _ rfl⟩

end Path

end LuaAssist

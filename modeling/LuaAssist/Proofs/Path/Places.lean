import LuaAssist.Proofs.Path.Parts

/-!
# The normal form and the place

The normal form of an absolute path spells the names on the way to the place of the path. Where a
path leads to a file, every directory on that way was passed, so the normal form leads to the same
file.
-/

namespace LuaAssist

namespace Path

/-! ## The place of a normal path -/

/-- Names lead further down. -/
theorem foldl_enter_names (place names : List Text) :
    (names.map Part.name).foldl Part.enter place = place ++ names := by
  induction names generalizing place with
  | nil => simp
  | cons name names ih =>
    rw [List.map_cons, List.foldl_cons, ih, Part.enter, List.append_assoc]
    rfl

/-- Names lead to themselves. -/
theorem placeOf_names (names : List Text) : placeOf (.root :: names.map .name) = names :=
  foldl_enter_names [] names

/-- Normalising keeps the names of the place, the last one first, in front of what no step back
removes. -/
theorem foldl_normalizeStep {base parts : List Part} (hbase : normalizeStep base .parent = base)
    (hroot : Part.root ∉ parts) (kept : List Text) :
    parts.foldl normalizeStep (kept.map .name ++ base) =
      (parts.foldl Part.enter kept.reverse).reverse.map .name ++ base := by
  induction parts generalizing kept with
  | nil => simp
  | cons part parts ih =>
    have hrest := ih fun hmem => hroot (List.mem_cons_of_mem _ hmem)
    rw [List.foldl_cons, List.foldl_cons]
    cases part with
    | root => exact absurd List.mem_cons_self hroot
    | current => exact hrest kept
    | parent =>
      cases kept with
      | nil =>
        have hstay : normalizeStep (([] : List Text).map .name ++ base) .parent = base := hbase
        rw [hstay]
        exact hrest []
      | cons last kept =>
        have hback : Part.enter (last :: kept).reverse .parent = kept.reverse := by
          simp [Part.enter]
        rw [hback]
        exact hrest kept
    | name name =>
      have hon : Part.enter kept.reverse (.name name) = (name :: kept).reverse := by
        simp [Part.enter]
      rw [hon]
      exact hrest (name :: kept)

/-- The names of a place come from the parts that lead to it. -/
theorem mem_foldl_enter {parts : List Part} {place : List Text} {name : Text}
    (hmem : name ∈ parts.foldl Part.enter place) : name ∈ place ∨ .name name ∈ parts := by
  induction parts generalizing place with
  | nil => exact Or.inl hmem
  | cons part parts ih =>
    rw [List.foldl_cons] at hmem
    rcases ih hmem with hplace | hparts
    · cases part with
      | root => cases hplace
      | current => exact Or.inl hplace
      | parent => exact Or.inl (List.dropLast_subset _ hplace)
      | name last =>
        rcases List.mem_append.mp hplace with hplace | hlast
        · exact Or.inl hplace
        · rw [List.mem_singleton.mp hlast]
          exact Or.inr List.mem_cons_self
    · exact Or.inr (List.mem_cons_of_mem _ hparts)

variable {path normal : Path}

/-- Behind the root no part of a path is the root. -/
theorem root_not_mem_pieces (path : Path) :
    Part.root ∉ path.pieces.filterMap Part.ofPiece? := by
  intro hmem
  obtain ⟨piece, _, hpiece⟩ := List.mem_filterMap.mp hmem
  exact ofPiece?_ne_root piece hpiece

/-- The root of an absolute path, which normalising never takes back. -/
def base (path : Path) : List Part := if path.isAbsolute then [.root] else []

/-- The normal parts of a path are the names of its place, behind the root if it has one. -/
theorem normalParts_eq (path : Path) :
    normalParts path.parts = path.base ++ (placeOf path.parts).map .name := by
  have hfold (base : List Part) (hbase : normalizeStep base .parent = base) :
      ((path.pieces.filterMap Part.ofPiece?).foldl normalizeStep base).reverse =
        base.reverse ++ ((path.pieces.filterMap Part.ofPiece?).foldl Part.enter []).map .name := by
    have hwhole := foldl_normalizeStep hbase path.root_not_mem_pieces []
    exact (congrArg List.reverse hwhole).trans (by simp)
  unfold normalParts placeOf parts base
  split
  · exact hfold [.root] rfl
  · split <;> exact hfold [] rfl

/-- The names of the place of a path stand for themselves. -/
theorem isName_of_mem_placeOf (path : Path) : ∀ name ∈ placeOf path.parts, IsName name := by
  intro name hmem
  have hpart : .name name ∈ path.parts := (mem_foldl_enter hmem).resolve_left List.not_mem_nil
  have hnamed : .name name ∈ path.pieces.filterMap Part.ofPiece? := by
    unfold parts at hpart
    split at hpart
    · exact (List.mem_cons.mp hpart).resolve_left Part.noConfusion
    · split at hpart
      · exact (List.mem_cons.mp hpart).resolve_left Part.noConfusion
      · exact hpart
  obtain ⟨piece, hpieces, hpiece⟩ := List.mem_filterMap.mp hnamed
  exact isName_of_piece hpieces hpiece

/-- An absolute path has a normal form: the plain spelling of its place. -/
theorem normalize?_eq (habsolute : path.isAbsolute = true) :
    path.normalize? = some (ofParts (.root :: (placeOf path.parts).map .name)) := by
  rw [normalize?, normalParts_eq, base, if_pos habsolute]
  rfl

/-- The normal form of an absolute path is normal. -/
theorem isNormal_of_normalize? (habsolute : path.isAbsolute = true)
    (hnormal : path.normalize? = some normal) : normal.IsNormal := by
  rw [normalize?_eq habsolute] at hnormal
  exact ⟨_, path.isName_of_mem_placeOf, (Option.some.inj hnormal).symm⟩

/-- A normal path spells its place. -/
theorem IsNormal.ofParts_placeOf (hnormal : path.IsNormal) :
    ofParts (.root :: (placeOf path.parts).map .name) = path := by
  obtain ⟨names, hnames, rfl⟩ := hnormal
  rw [parts_ofParts hnames, placeOf_names]

/-- Normal paths of one place are the same. -/
theorem IsNormal.eq_of_placeOf {other : Path} (hnormal : path.IsNormal) (hother : other.IsNormal)
    (hplace : placeOf path.parts = placeOf other.parts) : path = other := by
  rw [← hnormal.ofParts_placeOf, hplace, hother.ofParts_placeOf]

/-- A normal path is absolute. -/
theorem IsNormal.isAbsolute (hnormal : path.IsNormal) : path.isAbsolute = true := by
  obtain ⟨names, hnames, rfl⟩ := hnormal
  rw [isAbsolute_iff_parts, parts_ofParts hnames]
  rfl

/-- A normal path is written without steps that stay or go back. -/
theorem IsNormal.plain (hnormal : path.IsNormal) :
    ∀ piece ∈ path.pieces, piece ≠ ['.'] ∧ piece ≠ ['.', '.'] := by
  obtain ⟨names, hnames, rfl⟩ := hnormal
  by_cases hne : names = []
  · subst hne
    decide
  · rw [pieces_ofParts hnames hne, List.forall_mem_cons]
    refine ⟨by decide, fun name hname => ⟨?_, ?_⟩⟩ <;> rintro rfl <;>
      exact absurd (hnames _ hname).piece (by decide)

/-- No part of a normal path stays or goes back. -/
theorem IsNormal.named (hnormal : path.IsNormal) :
    ∀ part ∈ path.parts, part ≠ .current ∧ part ≠ .parent := by
  obtain ⟨names, hnames, rfl⟩ := hnormal
  rw [parts_ofParts hnames]
  simp

/-- A normal path is its own normal form. -/
theorem IsNormal.normalize?_eq (hnormal : path.IsNormal) : path.normalize? = some path := by
  rw [Path.normalize?_eq hnormal.isAbsolute, hnormal.ofParts_placeOf]

/-- The normal form has the place of the path. -/
theorem placeOf_of_normalize? (habsolute : path.isAbsolute = true)
    (hnormal : path.normalize? = some normal) :
    placeOf normal.parts = placeOf path.parts := by
  rw [normalize?_eq habsolute] at hnormal
  cases hnormal
  rw [parts_ofParts path.isName_of_mem_placeOf, placeOf_names]

/-- A relative path in a directory leads on from the place of the directory. -/
theorem placeOf_join {relative : Path} (habsolute : path.isAbsolute = true)
    (hrelative : relative.isAbsolute = false) :
    placeOf (path.join relative).parts =
      (relative.pieces.filterMap Part.ofPiece?).foldl Part.enter (placeOf path.parts) := by
  rw [parts_join habsolute hrelative, placeOf, List.foldl_append]
  rfl

end Path

namespace FileTree

variable {tree : FileTree} {path normal : Path}

/-! ## The way to a place -/

/-- The directories on the way to a place are there. -/
def HasWay (tree : FileTree) (place : List Text) : Prop :=
  ∀ front, front <+: place → front ≠ place → tree.isDirectory front = true

/-- A step from a directory to which there is a way leads to a place to which there is one. -/
theorem HasWay.step {place : List Text} (hway : tree.HasWay place)
    (hdirectory : tree.isDirectory place = true) (piece : Text) :
    tree.HasWay (step place piece) := by
  intro front hfront hne
  unfold FileTree.step at hfront hne
  split at hfront
  · rename_i hstay
    rw [if_pos hstay] at hne
    exact hway front hfront hne
  · rename_i hmove
    rw [if_neg hmove] at hne
    split at hfront
    · rename_i hback
      rw [if_pos hback] at hne
      refine hway front (hfront.trans (List.dropLast_prefix place)) fun heq => hne ?_
      refine hfront.eq_of_length_le ?_
      rw [heq, List.length_dropLast]
      exact Nat.sub_le _ _
    · rename_i hname
      rw [if_neg hname] at hne
      rcases List.prefix_concat_iff.mp hfront with heq | hfront
      · exact absurd heq hne
      · by_cases heq : front = place
        · exact heq ▸ hdirectory
        · exact hway front hfront heq

/-- The way that pieces take passes through directories. -/
theorem HasWay.follow? {place reached : List Text} {pieces : List Text}
    (hway : tree.HasWay place) (hreached : tree.follow? place pieces = some reached) :
    tree.HasWay reached := by
  induction pieces generalizing place with
  | nil => exact Option.some.inj hreached ▸ hway
  | cons piece rest ih =>
    rw [follow?_cons] at hreached
    split at hreached
    · rename_i hdirectory
      exact ih (hway.step hdirectory piece) hreached
    · cases hreached

/-- Where there is a way, the names lead along it. -/
theorem HasWay.follow?_names {place names : List Text} (hnames : ∀ name ∈ names, Path.IsName name)
    (hway : tree.HasWay (place ++ names)) : tree.follow? place names = some (place ++ names) := by
  induction names generalizing place with
  | nil => simp [FileTree.follow?]
  | cons name names ih =>
    rw [List.forall_mem_cons] at hnames
    have hdirectory : tree.isDirectory place = true :=
      hway place (List.prefix_append _ _) (by simp)
    have hstep : FileTree.step place name = place ++ [name] := step_of_some hnames.1.piece
    have hsplit : place ++ name :: names = place ++ [name] ++ names := by simp
    rw [hsplit] at hway ⊢
    rw [follow?_cons, if_pos hdirectory, hstep, ih hnames.2 hway]

/-- The normal form leads to the place to which the path leads. -/
theorem follow?_normalize {place : List Text} (habsolute : path.isAbsolute = true)
    (hfollow : tree.follow? [] path.pieces = some place)
    (hnormal : path.normalize? = some normal) : tree.follow? [] normal.pieces = some place := by
  have hnames := path.isName_of_mem_placeOf
  have hroot : tree.HasWay [] := fun front hfront hne => absurd (List.prefix_nil.mp hfront) hne
  have hway : tree.HasWay place := hroot.follow? hfollow
  rw [Path.normalize?_eq habsolute] at hnormal
  cases hnormal
  rw [placeOf_of_follow? habsolute hfollow] at hnames ⊢
  cases place with
  | nil => rfl
  | cons name names =>
    rw [Path.pieces_ofParts hnames (List.cons_ne_nil _ _), follow?_cons]
    exact hway.follow?_names hnames

/-- The normal form of a path that leads to a file leads to it too. -/
theorem read?_normalize {file : File} (hfile : tree.read? path = some file)
    (hnormal : path.normalize? = some normal) : tree.read? normal = some file := by
  unfold read? at hfile ⊢
  split at hfile
  case isFalse => cases hfile
  rename_i habsolute
  obtain ⟨place, hfollow, hplace⟩ := Option.bind_eq_some_iff.mp hfile
  rw [if_pos (Path.isNormal_of_normalize? habsolute hnormal).isAbsolute,
    follow?_normalize habsolute hfollow hnormal]
  exact hplace

end FileTree

end LuaAssist

import LuaAssist.Proofs.Cache.Coherence
import LuaAssist.Proofs.Path.Places

/-!
# Writing files at paths

A file that is written at an absolute path stands at the place of the path, and every other place
keeps its file. The directories on the way are made, so the file can be read at its path, and what
could be read elsewhere still can.
-/

namespace LuaAssist

namespace Path

/-- A name in a directory stands at the place below that of the directory. -/
theorem placeOf_join_name {directory : Path} {name : Text} (habsolute : directory.isAbsolute = true)
    (hname : IsName name) :
    placeOf (directory.join ⟨name⟩).parts = placeOf directory.parts ++ [name] := by
  rw [placeOf_join habsolute hname.isAbsolute, hname.pieces,
    List.filterMap_cons_some hname.piece]
  rfl

end Path

namespace FileTree

variable {tree next : FileTree} {path other : Path} {file : File} {place : List Text}

/-! ## The way to a file -/

/-- The way ends where the pieces lead. -/
theorem makeWay_snd (tree : FileTree) (place : List Text) (pieces : List Text) :
    (tree.makeWay place pieces).2 = pieces.foldl step place := by
  induction pieces generalizing tree place with
  | nil => rfl
  | cons piece rest ih => exact ih _ _

/-- Pieces lead where their parts lead. -/
theorem foldl_step (place : List Text) (pieces : List Text) :
    pieces.foldl step place =
      (pieces.filterMap Path.Part.ofPiece?).foldl Path.Part.enter place := by
  induction pieces generalizing place with
  | nil => rfl
  | cons piece rest ih =>
    rw [List.foldl_cons, ih]
    cases hpiece : Path.Part.ofPiece? piece with
    | none => rw [step_of_none hpiece, List.filterMap_cons_none hpiece]
    | some part => rw [step_of_some hpiece, List.filterMap_cons_some hpiece, List.foldl_cons]

/-- The pieces of an absolute path lead from the root to its place. -/
theorem foldl_step_pieces (habsolute : path.isAbsolute = true) :
    path.pieces.foldl step [] = Path.placeOf path.parts := by
  rw [foldl_step, Path.parts_of_isAbsolute habsolute]
  rfl

/-- One tree has all directories of another. -/
def HasDirectories (tree next : FileTree) : Prop :=
  ∀ place, tree.isDirectory place = true → next.isDirectory place = true

/-- Adding a directory removes none. -/
theorem hasDirectories_addDirectory (tree : FileTree) (place : List Text) :
    HasDirectories tree (tree.addDirectory place) := by
  intro old hold
  unfold addDirectory
  split
  · exact hold
  · simp only [isDirectory, Bool.or_eq_true, List.contains_iff_mem] at hold ⊢
    exact hold.imp_right (List.mem_cons_of_mem place)

/-- A directory that was added is there. -/
theorem isDirectory_addDirectory (tree : FileTree) (place : List Text) :
    (tree.addDirectory place).isDirectory place = true := by
  unfold addDirectory
  split
  · assumption
  · simp [isDirectory]

/-- Directories that were there stay. -/
theorem hasDirectories_makeWay (tree : FileTree) (place : List Text) (pieces : List Text) :
    HasDirectories tree (tree.makeWay place pieces).1 := by
  induction pieces generalizing tree place with
  | nil => exact fun _ => id
  | cons piece rest ih =>
    exact fun old hold => ih _ _ old (hasDirectories_addDirectory tree _ old hold)

/-- With more directories what leads somewhere still leads there. -/
theorem HasDirectories.follow? (hmore : HasDirectories tree next) {reached : List Text}
    {pieces : List Text} (hreached : tree.follow? place pieces = some reached) :
    next.follow? place pieces = some reached := by
  induction pieces generalizing place with
  | nil => exact hreached
  | cons piece rest ih =>
    rw [follow?_cons] at hreached ⊢
    split at hreached
    case isTrue hdirectory =>
      rw [if_pos (hmore place hdirectory)]
      exact ih hreached
    case isFalse => cases hreached

/-- The way that was made can be gone, and one step more. -/
theorem follow?_makeWay (hplace : tree.isDirectory place = true) (pieces : List Text)
    (last : Text) :
    (tree.makeWay place pieces).1.follow? place (pieces ++ [last]) =
      some ((pieces ++ [last]).foldl step place) := by
  induction pieces generalizing tree place with
  | nil =>
    rw [List.nil_append, follow?_cons]
    exact if_pos hplace
  | cons piece rest ih =>
    have hstart := hasDirectories_addDirectory tree (step place piece) place hplace
    rw [makeWay, List.cons_append, follow?_cons, if_pos (hasDirectories_makeWay _ _ _ _ hstart)]
    exact ih (isDirectory_addDirectory tree (step place piece))

/-! ## The file -/

/-- There is a last piece. -/
theorem pieces_eq_concat (path : Path) :
    path.pieces = path.pieces.dropLast ++ [path.pieces.getLast?.getD []] := by
  obtain ⟨first, rest, hpieces⟩ := Text.exists_splitOn_eq (· = '/') path.text
  rw [Path.pieces, hpieces, List.getLast?_eq_some_getLast (List.cons_ne_nil first rest),
    Option.getD_some, List.dropLast_concat_getLast]

/-- A written file stands at the place of its path, and every other place keeps its file. -/
theorem fileAt?_write (tree : FileTree) (habsolute : path.isAbsolute = true) (file : File)
    (place : List Text) :
    (tree.write path file).fileAt? place =
      if place = Path.placeOf path.parts then some file else tree.fileAt? place := by
  have hwritten : step (tree.makeWay [] path.pieces.dropLast).2 (path.pieces.getLast?.getD []) =
      Path.placeOf path.parts := by
    have hwhole := congrArg (List.foldl step []) (pieces_eq_concat path)
    rw [List.foldl_append] at hwhole
    rw [makeWay_snd, ← foldl_step_pieces habsolute]
    exact hwhole.symm
  unfold write fileAt?
  dsimp only
  rw [hwritten, files_makeWay, lookup_cons_eq_ite, lookup_filter_ne]
  exact ite_congr rfl (fun _ => rfl) fun hplace => if_neg hplace

/-- Writing a file removes no directory. -/
theorem hasDirectories_write (tree : FileTree) (path : Path) (file : File) :
    HasDirectories tree (tree.write path file) :=
  hasDirectories_makeWay tree [] path.pieces.dropLast

/-- A written file is read at its path. -/
theorem read?_write_self (tree : FileTree) (habsolute : path.isAbsolute = true) (file : File) :
    (tree.write path file).read? path = some file := by
  have hfollow : (tree.write path file).follow? [] path.pieces =
      some (Path.placeOf path.parts) := by
    have hway := follow?_makeWay (rfl : tree.isDirectory [] = true) path.pieces.dropLast
      (path.pieces.getLast?.getD [])
    rw [← pieces_eq_concat, foldl_step_pieces habsolute] at hway
    have hmore : HasDirectories (tree.makeWay [] path.pieces.dropLast).1
        (tree.write path file) := fun _ => id
    exact hmore.follow? hway
  rw [read?, if_pos habsolute, hfollow]
  exact (fileAt?_write tree habsolute file _).trans (if_pos rfl)

/-- What is read elsewhere is not touched by a written file. -/
theorem read?_write_of_ne {found : File} (habsolute : path.isAbsolute = true)
    (hread : tree.read? other = some found)
    (hother : Path.placeOf other.parts ≠ Path.placeOf path.parts) (file : File) :
    (tree.write path file).read? other = some found := by
  have hstands := fileAt?_of_read? hread
  unfold read? at hread ⊢
  split at hread
  case isFalse => cases hread
  case isTrue hrooted =>
    obtain ⟨place, hfollow, -⟩ := Option.bind_eq_some_iff.mp hread
    rw [if_pos hrooted, (hasDirectories_write tree path file).follow? hfollow,
      ← placeOf_of_follow? hrooted hfollow]
    exact (fileAt?_write tree habsolute file _).trans ((if_neg hother).trans hstands)

end FileTree

end LuaAssist

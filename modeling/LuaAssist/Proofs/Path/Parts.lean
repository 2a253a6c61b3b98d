import LuaAssist.FileTree
import LuaAssist.Proofs.Text.Pieces

/-!
# Paths and their parts

A normal path is the plain spelling of its parts, so that its parts tell it from every other. A
relative path in a directory adds its parts to those of the directory. The file that a path leads to
is found by its parts, and for a path that ends in a name so are the directories that have to be
there.
-/

namespace LuaAssist

namespace Path

/-! ## Names -/

/-- A text that stands for itself between the slashes of a path. -/
structure IsName (name : Text) : Prop where
  piece : Part.ofPiece? name = some (.name name)
  inner : ∀ c ∈ name, decide (c = '/') = false

/-- A name is not empty. -/
theorem IsName.ne_nil {name : Text} (hname : IsName name) : name ≠ [] := by
  rintro rfl
  cases hname.piece

/-- The names among the pieces of a path. -/
theorem isName_of_piece {path : Path} {piece name : Text} (hmem : piece ∈ path.pieces)
    (hname : Part.ofPiece? piece = some (.name name)) : IsName name := by
  have heq : piece = name := by
    unfold Part.ofPiece? at hname
    split at hname
    · cases hname
    · split at hname
      · cases hname
      · exact Part.name.inj (Option.some.inj hname)
  subst heq
  exact ⟨hname, Text.inner_of_mem_splitOn hmem⟩

/-- No piece is the root. -/
theorem ofPiece?_ne_root (piece : Text) : Part.ofPiece? piece ≠ some .root := by
  intro hroot
  unfold Part.ofPiece? at hroot
  split at hroot <;> try split at hroot
  all_goals cases hroot

/-- A part that is read as it is spelled. -/
structure Part.IsSpelled (part : Part) : Prop where
  piece : Part.ofPiece? part.text = some part
  inner : ∀ c ∈ part.text, decide (c = '/') = false

/-- A name is spelled by itself. -/
theorem IsName.isSpelled {name : Text} (hname : IsName name) : (Part.name name).IsSpelled :=
  ⟨hname.piece, hname.inner⟩

/-- The pieces of a written path stand for names and steps back. -/
theorem isSpelled_of_piece {path : Path} {piece : Text} {part : Part}
    (hmem : piece ∈ path.pieces) (hpart : Part.ofPiece? piece = some part) : part.IsSpelled := by
  cases part with
  | name text => exact (isName_of_piece hmem hpart).isSpelled
  | parent => exact ⟨rfl, by decide⟩
  | root => exact absurd hpart (ofPiece?_ne_root piece)
  | current =>
    unfold Part.ofPiece? at hpart
    split at hpart <;> try split at hpart
    all_goals cases hpart

/-- Spelled parts are read again. -/
theorem filterMap_ofPiece? {parts : List Part} (hparts : ∀ part ∈ parts, part.IsSpelled) :
    (parts.map Part.text).filterMap Part.ofPiece? = parts := by
  induction parts with
  | nil => rfl
  | cons part parts ih =>
    obtain ⟨hpart, hrest⟩ := List.forall_mem_cons.mp hparts
    rw [List.map_cons, List.filterMap_cons_some hpart.piece, ih hrest]

/-- What follows the root of an absolute path are names and steps back. -/
theorem parts_of_isAbsolute {path : Path} (habsolute : path.isAbsolute = true) :
    path.parts = .root :: path.pieces.filterMap Part.ofPiece? := by
  rw [parts, if_pos habsolute]

/-- A path is absolute exactly when it has a root. -/
theorem isAbsolute_iff_parts {path : Path} :
    path.isAbsolute = true ↔ path.parts.head? = some .root := by
  constructor
  · intro habsolute
    rw [parts_of_isAbsolute habsolute]
    rfl
  · intro hroot
    refine Classical.byContradiction fun hrelative => ?_
    unfold parts at hroot
    rw [if_neg hrelative] at hroot
    split at hroot
    · cases hroot
    · obtain ⟨piece, _, hpiece⟩ := List.mem_filterMap.mp (List.mem_of_head? hroot)
      exact ofPiece?_ne_root piece hpiece

/-! ## Paths in a directory -/

/-- A name is not absolute. -/
theorem IsName.isAbsolute {name : Text} (hname : IsName name) : isAbsolute ⟨name⟩ = false := by
  cases name with
  | nil => rfl
  | cons c rest =>
    have hslash := hname.inner c List.mem_cons_self
    simpa [Path.isAbsolute] using hslash

/-- A name is one piece. -/
theorem IsName.pieces {name : Text} (hname : IsName name) : pieces ⟨name⟩ = [name] :=
  Text.splitOn_of_inner hname.inner

/-- A relative path behind a directory is behind its slash or behind one that is added. -/
theorem exists_text_join {directory relative : Path} (hrelative : relative.isAbsolute = false)
    (hwritten : directory.text ≠ []) :
    ∃ front, (directory.join relative).text = front ++ '/' :: relative.text ∧
      (directory.text = front ∨ directory.text = front ++ ['/']) := by
  unfold join
  rw [if_neg (by simp [hrelative, hwritten])]
  split
  · rename_i hslash
    obtain ⟨front, hfront⟩ := List.getLast?_eq_some_iff.mp hslash
    exact ⟨front, by simp [hfront], Or.inr hfront⟩
  · exact ⟨directory.text, rfl, Or.inl rfl⟩

/-- A relative path in a directory is found from the root exactly if the directory is. -/
theorem isAbsolute_join {directory relative : Path} (hrelative : relative.isAbsolute = false) :
    (directory.join relative).isAbsolute = directory.isAbsolute := by
  by_cases hwritten : directory.text = []
  · have hjoin : directory.join relative = relative := by simp [join, hwritten]
    rw [hjoin, hrelative]
    simp [isAbsolute, hwritten]
  · obtain ⟨front, htext, hfront⟩ := exists_text_join hrelative hwritten
    unfold isAbsolute
    rw [htext]
    rcases hfront with hfront | hfront
    · subst hfront
      obtain ⟨c, rest, heq⟩ := List.exists_cons_of_ne_nil hwritten
      rw [heq, List.cons_append, List.head?_cons, List.head?_cons]
    · rw [hfront]
      cases front <;> rfl

/-- The pieces of a relative path come last in a directory. -/
theorem exists_pieces_join {directory relative : Path} (habsolute : directory.isAbsolute = true)
    (hrelative : relative.isAbsolute = false) :
    ∃ front, (directory.join relative).pieces = front ++ relative.pieces ∧
      front.filterMap Part.ofPiece? = directory.pieces.filterMap Part.ofPiece? := by
  have hwritten : directory.text ≠ [] := by
    intro hnil
    simp [isAbsolute, hnil] at habsolute
  obtain ⟨front, htext, hfront⟩ := exists_text_join hrelative hwritten
  refine ⟨Text.splitOn (· = '/') front, ?_, ?_⟩
  · rw [pieces, pieces, htext, Text.splitOn_append_separator rfl]
  · rcases hfront with hfront | hfront
    · rw [pieces, hfront]
    · rw [pieces, hfront, Text.splitOn_append_separator rfl, List.filterMap_append]
      exact (List.append_nil _).symm

/-- What the pieces of a relative path stand for comes behind the parts of the directory. -/
theorem parts_join {directory relative : Path} (habsolute : directory.isAbsolute = true)
    (hrelative : relative.isAbsolute = false) :
    (directory.join relative).parts =
      directory.parts ++ relative.pieces.filterMap Part.ofPiece? := by
  obtain ⟨front, hpieces, hfront⟩ := exists_pieces_join habsolute hrelative
  rw [parts_of_isAbsolute ((isAbsolute_join hrelative).trans habsolute),
    parts_of_isAbsolute habsolute, hpieces, List.filterMap_append, hfront, List.cons_append]

/-! ## Normal paths -/

/-- The plain spelling of an absolute path of names. -/
def IsNormal (path : Path) : Prop :=
  ∃ names : List Text, (∀ name ∈ names, IsName name) ∧ path = ofParts (.root :: names.map .name)

/-- The pieces of a plain spelling: the empty one in front of the root, and the parts. -/
theorem pieces_ofSpelled {parts : List Part} (hparts : ∀ part ∈ parts, part.IsSpelled)
    (hne : parts ≠ []) : (ofParts (.root :: parts)).pieces = [] :: parts.map Part.text := by
  obtain ⟨part, parts, rfl⟩ := List.exists_cons_of_ne_nil hne
  show Text.splitOn _ (Text.join ['/'] (_ :: (part :: parts).map Part.text)) = _
  refine Text.splitOn_join rfl (List.cons_ne_nil _ _) fun piece hmem => ?_
  rcases List.mem_cons.mp hmem with rfl | hmem
  · simp [Part.text]
  · obtain ⟨other, hother, rfl⟩ := List.mem_map.mp hmem
    exact (hparts other hother).inner

/-- The parts of a plain spelling are those that were spelled. -/
theorem parts_ofSpelled {parts : List Part} (hparts : ∀ part ∈ parts, part.IsSpelled) :
    (ofParts (.root :: parts)).parts = .root :: parts := by
  cases parts with
  | nil => rfl
  | cons part parts =>
    rw [parts_of_isAbsolute rfl, pieces_ofSpelled hparts (List.cons_ne_nil _ _)]
    exact congrArg (Part.root :: ·) (filterMap_ofPiece? hparts)

/-- Names are spelled by themselves. -/
theorem isSpelled_names {names : List Text} (hnames : ∀ name ∈ names, IsName name) :
    ∀ part ∈ names.map Part.name, part.IsSpelled := by
  intro part hpart
  obtain ⟨name, hname, rfl⟩ := List.mem_map.mp hpart
  exact (hnames name hname).isSpelled

/-- A path of names has these names as its pieces, behind the root. -/
theorem pieces_ofParts {names : List Text} (hnames : ∀ name ∈ names, IsName name)
    (hne : names ≠ []) : (ofParts (.root :: names.map .name)).pieces = [] :: names := by
  have htexts : (names.map Part.name).map Part.text = names := by
    rw [List.map_map]
    exact List.map_id' _
  rw [pieces_ofSpelled (isSpelled_names hnames) (by simpa using hne), htexts]

/-- A path of names has these names as its parts. -/
theorem parts_ofParts {names : List Text} (hnames : ∀ name ∈ names, IsName name) :
    (ofParts (.root :: names.map .name)).parts = .root :: names.map .name :=
  parts_ofSpelled (isSpelled_names hnames)

/-- A normal path is told by its parts. -/
theorem IsNormal.ofParts_parts {path : Path} (hnormal : path.IsNormal) :
    ofParts path.parts = path := by
  obtain ⟨names, hnames, rfl⟩ := hnormal
  rw [parts_ofParts hnames]

/-! ## Places -/

/-- The place that a part leads to from a place. -/
def Part.enter (place : List Text) : Part → List Text
  | .root => []
  | .current => place
  | .parent => place.dropLast
  | .name text => place ++ [text]

/-- The place that the parts of an absolute path lead to. -/
def placeOf (parts : List Part) : List Text := parts.foldl Part.enter []

end Path

namespace FileTree

variable {tree : FileTree}

/-- A piece that stands for no part leads nowhere. -/
theorem step_of_none {place : List Text} {piece : Text} (hpiece : Path.Part.ofPiece? piece = none) :
    step place piece = place := by
  unfold Path.Part.ofPiece? at hpiece
  split at hpiece
  · rename_i hstay
    exact if_pos hstay
  · split at hpiece <;> cases hpiece

/-- A piece leads where its part leads. -/
theorem step_of_some {place : List Text} {piece : Text} {part : Path.Part}
    (hpiece : Path.Part.ofPiece? piece = some part) : step place piece = part.enter place := by
  unfold Path.Part.ofPiece? at hpiece
  unfold step
  split at hpiece
  · cases hpiece
  · rename_i hmove
    rw [if_neg hmove]
    split at hpiece
    · rename_i hback
      rw [if_pos hback]
      cases hpiece
      rfl
    · rename_i hname
      rw [if_neg hname]
      cases hpiece
      rfl

/-- A step out of a directory leads where the piece leads. -/
theorem follow?_cons (place : List Text) (piece : Text) (rest : List Text) :
    tree.follow? place (piece :: rest) =
      if tree.isDirectory place then tree.follow? (step place piece) rest else none := by
  rw [follow?, enter?]
  split <;> rfl

/-- Pieces lead where their parts lead, if the directories are there. -/
theorem foldl_enter_of_follow? {place reached : List Text} {pieces : List Text}
    (hreached : tree.follow? place pieces = some reached) :
    (pieces.filterMap Path.Part.ofPiece?).foldl Path.Part.enter place = reached := by
  induction pieces generalizing place with
  | nil => exact Option.some.inj hreached
  | cons piece rest ih =>
    rw [follow?_cons] at hreached
    split at hreached
    · cases hpiece : Path.Part.ofPiece? piece with
      | none =>
        rw [step_of_none hpiece] at hreached
        rw [List.filterMap_cons_none hpiece]
        exact ih hreached
      | some part =>
        rw [step_of_some hpiece] at hreached
        rw [List.filterMap_cons_some hpiece, List.foldl_cons]
        exact ih hreached
    · cases hreached

/-- What an absolute path leads to stands at the place of its parts. -/
theorem placeOf_of_follow? {path : Path} {place : List Text} (habsolute : path.isAbsolute = true)
    (hplace : tree.follow? [] path.pieces = some place) : Path.placeOf path.parts = place := by
  rw [Path.parts_of_isAbsolute habsolute, Path.placeOf, List.foldl_cons]
  exact foldl_enter_of_follow? hplace

/-- The file that a path leads to stands at the place of its parts. -/
theorem fileAt?_of_read? {path : Path} {file : File} (hfile : tree.read? path = some file) :
    tree.fileAt? (Path.placeOf path.parts) = some file := by
  unfold read? at hfile
  split at hfile
  · rename_i habsolute
    obtain ⟨place, hplace, hfile⟩ := Option.bind_eq_some_iff.mp hfile
    rw [placeOf_of_follow? habsolute hplace]
    exact hfile
  · cases hfile

/-- The place that parts lead to, if the directories on the way are there. -/
def followParts (tree : FileTree) (place : List Text) : List Path.Part → Option (List Text)
  | [] => some place
  | part :: rest =>
    if tree.isDirectory place then tree.followParts (part.enter place) rest else none

/-- From a place that is no directory no part leads anywhere. -/
theorem followParts_of_missing {place : List Text} (hmissing : ¬tree.isDirectory place = true)
    {parts : List Path.Part} (hparts : parts ≠ []) : tree.followParts place parts = none := by
  cases parts with
  | nil => exact absurd rfl hparts
  | cons part rest => exact if_neg hmissing

/-- In front of a part the pieces that stand for none ask for no other directory. -/
theorem follow?_append_part (place : List Text) (pieces : List Text) {last : Text}
    {part : Path.Part} (hlast : Path.Part.ofPiece? last = some part) :
    tree.follow? place (pieces ++ [last]) =
      tree.followParts place (pieces.filterMap Path.Part.ofPiece? ++ [part]) := by
  induction pieces generalizing place with
  | nil =>
    rw [List.nil_append, follow?_cons, step_of_some hlast]
    rfl
  | cons piece rest ih =>
    rw [List.cons_append, follow?_cons]
    cases hpiece : Path.Part.ofPiece? piece with
    | none =>
      -- The piece stays at its place and asks for the directory that the next part asks for.
      rw [step_of_none hpiece, List.filterMap_cons_none hpiece, ih]
      split
      · rfl
      · rename_i hmissing
        exact (followParts_of_missing hmissing (by simp)).symm
    | some next =>
      rw [step_of_some hpiece, List.filterMap_cons_some hpiece, ih]
      rfl

/-- A name in a directory is found by the parts of the directory. -/
theorem read?_join {directory : Path} {name : Text} (hname : Path.IsName name) :
    tree.read? (directory.join ⟨name⟩) =
      if directory.isAbsolute then
        (tree.followParts [] (directory.parts.tail ++ [.name name])).bind tree.fileAt?
      else none := by
  unfold read?
  rw [Path.isAbsolute_join hname.isAbsolute]
  by_cases habsolute : directory.isAbsolute = true
  · obtain ⟨front, hpieces, hfront⟩ := Path.exists_pieces_join habsolute hname.isAbsolute
    rw [if_pos habsolute, if_pos habsolute, hpieces, hname.pieces,
      follow?_append_part _ _ hname.piece, hfront, Path.parts_of_isAbsolute habsolute]
    rfl
  · rw [if_neg habsolute, if_neg habsolute]

/-- Directories with the same parts have the same files. -/
theorem read?_join_congr {directory other : Path} {name : Text} (hname : Path.IsName name)
    (hparts : directory.parts = other.parts) :
    tree.read? (directory.join ⟨name⟩) = tree.read? (other.join ⟨name⟩) := by
  rw [read?_join hname, read?_join hname, hparts]
  simp only [Path.isAbsolute_iff_parts, hparts]

end FileTree

end LuaAssist

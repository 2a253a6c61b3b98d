import LuaAssist.Proofs.Path.Parts
import Mathlib.Data.List.Induction

/-!
# Directories above a path

Above a path stand its parent, the parent of this one, and so on up to the root. The ancestors of a
directory are found by going up so, level by level.
-/

namespace LuaAssist.Path

variable {path : Path} {steps : List Part} {level : Nat}

/-- The path so many levels above a path. -/
def up (path : Path) : Nat → Option Path
  | 0 => some path
  | level + 1 => (path.up level).bind parent?

/-- The levels above a path begin with its parent. -/
theorem up_succ (path : Path) (level : Nat) :
    path.up (level + 1) = path.parent?.bind (·.up level) := by
  induction level with
  | zero => simp [up]
  | succ level ih => rw [up, ih, Option.bind_assoc]; rfl

/-! ## Parts -/

/-- What follows the root of an absolute path is spelled. -/
theorem exists_steps (habsolute : path.isAbsolute = true) :
    ∃ steps, path.parts = .root :: steps ∧ ∀ part ∈ steps, part.IsSpelled := by
  refine ⟨_, parts_of_isAbsolute habsolute, fun part hpart => ?_⟩
  obtain ⟨piece, hpiece, hstands⟩ := List.mem_filterMap.mp hpart
  exact isSpelled_of_piece hpiece hstands

/-- The root has no parent, and all other absolute paths have one. -/
theorem parent?_eq (hparts : path.parts = .root :: steps) :
    path.parent? = if steps = [] then none else some (ofParts (.root :: steps.dropLast)) := by
  unfold parent?
  rw [hparts]
  cases steps with
  | nil => rfl
  | cons step steps => rfl

/-- A path has a parent unless it is the root. -/
theorem parent?_eq_none_iff (habsolute : path.isAbsolute = true) :
    path.parent? = none ↔ path.parts = [.root] := by
  obtain ⟨steps, hparts, -⟩ := exists_steps habsolute
  rw [parent?_eq hparts, hparts]
  cases steps <;> simp

/-! ## Ancestors -/

/-- A list is shortened from its end. -/
theorem shortenings_concat {α : Type} (front : List α) (last : α) :
    shortenings (front ++ [last]) = (front ++ [last]) :: shortenings front := by
  induction front with
  | nil => rfl
  | cons a front ih => rw [List.cons_append, shortenings, ih, List.map_cons, List.cons_append]; rfl

/-- The directories above a path are spelled by its shortened steps. -/
theorem ancestors_ofSpelled (hsteps : ∀ part ∈ steps, part.IsSpelled) :
    (ofParts (.root :: steps)).ancestors = (shortenings (.root :: steps)).map ofParts := by
  have habsolute : (ofParts (.root :: steps)).isAbsolute = true :=
    isAbsolute_iff_parts.mpr (by rw [parts_ofSpelled hsteps]; rfl)
  rw [ancestors, if_pos habsolute, List.append_nil, parts_ofSpelled hsteps]

/-- The ancestors of a plain path are reached by going up. -/
theorem getElem?_ancestors (hsteps : ∀ part ∈ steps, part.IsSpelled) (level : Nat) :
    (ofParts (.root :: steps)).ancestors[level]? = (ofParts (.root :: steps)).up level := by
  induction steps using List.reverseRecOn generalizing level with
  | nil =>
    cases level with
    | zero => rfl
    | succ level =>
      rw [up_succ]
      rfl
  | append_singleton steps last ih =>
    have hfront : ∀ part ∈ steps, part.IsSpelled := fun part hpart =>
      hsteps part (List.mem_append_left _ hpart)
    have hancestors : (ofParts (.root :: (steps ++ [last]))).ancestors =
        ofParts (.root :: (steps ++ [last])) :: (ofParts (.root :: steps)).ancestors := by
      rw [ancestors_ofSpelled hsteps, ancestors_ofSpelled hfront, ← List.cons_append,
        shortenings_concat, List.map_cons]
    have hparent : (ofParts (.root :: (steps ++ [last]))).parent? =
        some (ofParts (.root :: steps)) := by
      rw [parent?_eq (parts_ofSpelled hsteps), if_neg (by simp), List.dropLast_concat]
    rw [hancestors]
    cases level with
    | zero => rfl
    | succ level => rw [List.getElem?_cons_succ, ih hfront, up_succ, hparent, Option.bind_some]

/-- So are the ancestors of a parent. -/
theorem getElem?_ancestors_parent {directory : Path} (habsolute : path.isAbsolute = true)
    (hdirectory : path.parent? = some directory) (level : Nat) :
    directory.ancestors[level]? = directory.up level := by
  obtain ⟨steps, hparts, hsteps⟩ := exists_steps habsolute
  rw [parent?_eq hparts] at hdirectory
  split at hdirectory
  · cases hdirectory
  · cases hdirectory
    exact getElem?_ancestors (fun part hpart => hsteps part (List.dropLast_subset _ hpart)) level

/-! ## Directories that are told by names -/

variable {names : List Text} {name : Text}

/-- What is left of a list as its last elements go is a front of it. -/
theorem prefix_of_mem_shortenings {α : Type} {whole front : List α}
    (hmem : front ∈ shortenings whole) : front <+: whole ∧ front ≠ [] := by
  induction whole generalizing front with
  | nil => cases hmem
  | cons first rest ih =>
    rw [shortenings, List.mem_append, List.mem_map, List.mem_singleton] at hmem
    rcases hmem with ⟨other, hother, rfl⟩ | rfl
    · exact ⟨List.cons_prefix_cons.mpr ⟨rfl, (ih hother).1⟩, List.cons_ne_nil _ _⟩
    · exact ⟨List.cons_prefix_cons.mpr ⟨rfl, List.nil_prefix⟩, List.cons_ne_nil _ _⟩

/-- A directory is the nearest of its ancestors. -/
theorem exists_ancestors_eq (hnames : ∀ name ∈ names, IsName name) :
    ∃ above, (ofParts (.root :: names.map .name)).ancestors =
      ofParts (.root :: names.map .name) :: above := by
  have hlast := List.dropLast_concat_getLast (List.cons_ne_nil Part.root (names.map .name))
  rw [ancestors_ofSpelled (isSpelled_names hnames), ← hlast, shortenings_concat]
  exact ⟨_, rfl⟩

/-- The ancestors of a directory are told by the fronts of its names. -/
theorem exists_front_of_mem_ancestors (hnames : ∀ name ∈ names, IsName name) {above : Path}
    (hmem : above ∈ (ofParts (.root :: names.map .name)).ancestors) :
    ∃ front, front <+: names ∧ above = ofParts (.root :: front.map .name) := by
  rw [ancestors_ofSpelled (isSpelled_names hnames)] at hmem
  obtain ⟨parts, hparts, rfl⟩ := List.mem_map.mp hmem
  obtain ⟨hfront, hne⟩ := prefix_of_mem_shortenings hparts
  obtain ⟨first, rest, rfl⟩ := List.exists_cons_of_ne_nil hne
  obtain ⟨rfl, hrest⟩ := List.cons_prefix_cons.mp hfront
  obtain ⟨front, hnamed, rfl⟩ := List.prefix_map_iff.mp hrest
  exact ⟨front, hnamed, rfl⟩

/-- Names are written with a slash in front of each. -/
theorem text_names (hne : names ≠ []) :
    (ofParts (.root :: names.map .name)).text = names.flatMap (['/'] ++ ·) := by
  have htexts : (Part.root :: names.map .name).map Part.text = [] :: names := by
    rw [List.map_cons, List.map_map]
    exact congrArg ([] :: ·) (List.map_id' names)
  obtain ⟨first, rest, rfl⟩ := List.exists_cons_of_ne_nil hne
  have hjoin : (ofParts (.root :: (first :: rest).map .name)).text =
      Text.join ['/'] ((Part.root :: (first :: rest).map .name).map Part.text) := rfl
  rw [hjoin, htexts, Text.join_cons, List.nil_append]

/-- A name in a directory of names is one name more. -/
theorem join_names (hnames : ∀ name ∈ names, IsName name) (hname : IsName name) :
    (ofParts (.root :: names.map .name)).join ⟨name⟩ =
      ofParts (.root :: (names ++ [name]).map .name) := by
  by_cases hroot : names = []
  · subst hroot
    rw [join, if_neg (by simp [hname.isAbsolute, ofParts]), if_pos (by rfl)]
    rfl
  -- No slash is at the end of the directory, for its last name is not empty and has none.
  have hlast := hnames _ (List.getLast_mem hroot)
  have hsolid := hlast.ne_nil
  have htext : (ofParts (.root :: names.map .name)).text =
      (names.dropLast.flatMap (['/'] ++ ·) ++ ['/']) ++ names.getLast hroot := by
    have hwhole := congrArg (List.flatMap (['/'] ++ ·)) (List.dropLast_concat_getLast hroot)
    rw [List.flatMap_append, List.flatMap_singleton] at hwhole
    rw [text_names hroot, ← hwhole, List.append_assoc]
  have hslash : (ofParts (.root :: names.map .name)).text.getLast? ≠ some '/' := by
    rw [htext, List.getLast?_append, List.getLast?_eq_some_getLast hsolid, Option.some_or]
    intro hslash
    have hinner := hlast.inner _ (List.getLast_mem hsolid)
    rw [Option.some.inj hslash] at hinner
    cases hinner
  rw [join, if_neg (by simp [hname.isAbsolute, htext]), if_neg hslash]
  refine congrArg Path.mk (Eq.trans ?_ (text_names (by simp)).symm)
  rw [text_names hroot, List.flatMap_append, List.flatMap_singleton]
  rfl

end LuaAssist.Path

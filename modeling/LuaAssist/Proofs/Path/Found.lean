import LuaAssist.Resolve
import LuaAssist.Proofs.Path.Ancestors
import LuaAssist.Proofs.Path.Places
import LuaAssist.Proofs.Scope.Members

/-!
# The file that is found for a module

A module name is tried in a fixed order of spellings, each of them once. A spelling that starts at
the root stands for itself, and any other is looked for in the directory of the requiring file and
in those above. What is found is the first file in this order, under its normal path.
-/

namespace LuaAssist

namespace FileTree

variable {tree : FileTree} {path normal : Path}

/-- An absolute path leads to the regular file at a place. -/
structure NamesFile (tree : FileTree) (path : Path) (place : List Text) : Prop where
  isAbsolute : path.isAbsolute = true
  follow : tree.follow? [] path.pieces = some place
  file : ∃ file, tree.fileAt? place = some file

/-- Files are named by their paths. -/
theorem isFile_iff : tree.isFile path = true ↔ ∃ place, tree.NamesFile path place := by
  rw [isFile, Option.isSome_iff_exists]
  constructor
  · rintro ⟨file, hfile⟩
    unfold read? at hfile
    split at hfile
    · rename_i habsolute
      obtain ⟨place, hplace, hfile⟩ := Option.bind_eq_some_iff.mp hfile
      exact ⟨place, habsolute, hplace, file, hfile⟩
    · cases hfile
  · rintro ⟨place, habsolute, hplace, file, hfile⟩
    refine ⟨file, ?_⟩
    unfold read?
    rw [if_pos habsolute, hplace]
    exact hfile

/-- The normal form names the same file. -/
theorem NamesFile.normalize {place : List Text} (hnames : tree.NamesFile path place)
    (hnormal : path.normalize? = some normal) : tree.NamesFile normal place where
  isAbsolute := (Path.isNormal_of_normalize? hnames.isAbsolute hnormal).isAbsolute
  follow := follow?_normalize hnames.isAbsolute hnames.follow hnormal
  file := hnames.file

end FileTree

namespace Resolve

variable {tree : FileTree} {rule : SearchRule} {patterns : List Text} {requiring directory : Path}
  {name : Text}

/-! ## Candidates -/

/-- One spelling of a module: a form of its name, in a pattern or alone, as it is or with the
extension. -/
def attempt (rule : SearchRule) (pattern : Option Text) (extended : Bool) (form : Text) : Text :=
  let stem := pattern.elim form (substitute rule.placeholder form)
  if extended then withExtension rule.extension stem else stem

/-- All spellings: the name alone and then in each pattern, without and then with the extension,
dotted and then with slashes. -/
def attempts (rule : SearchRule) (patterns : List Text) (name : Text) : List Text :=
  (none :: patterns.map some).flatMap fun pattern =>
    [false, true].flatMap fun extended => (forms name).map (attempt rule pattern extended)

/-- All spellings are tried in the documented order. -/
theorem spellings_eq_attempts (rule : SearchRule) (patterns : List Text) (name : Text) :
    spellings rule patterns name = attempts rule patterns name := by
  have hgroup (pattern : Option Text) :
      ([false, true].flatMap fun extended => (forms name).map (attempt rule pattern extended)) =
        withAndWithout rule.extension
          ((forms name).map fun form => pattern.elim form (substitute rule.placeholder form)) := by
    rw [withAndWithout, List.map_map]
    exact congrArg _ (List.append_nil _)
  unfold attempts
  rw [List.flatMap_cons, List.flatMap_map, hgroup, funext fun pattern => hgroup (some pattern)]
  exact congrArg (withAndWithout _ · ++ _) (List.map_id _).symm

/-- Each path that is not empty is kept where it first appears. -/
theorem foldl_addNew (paths : List Text) :
    paths.foldl addNew [] = (paths.filter (· ≠ [])).eraseDups := by
  have hadd : addNew = fun known path =>
      if decide (path ≠ []) && !known.contains path then known ++ [path] else known := by
    funext known path
    unfold addNew
    cases path <;> cases known.contains _ <;> rfl
  rw [hadd, Scope.foldl_new_eq_eraseDups]

/-- The candidates are the paths that are tried, each where it first appears. -/
theorem candidates_eq (rule : SearchRule) (patterns : List Text) (name : Text) :
    candidates rule patterns name =
      ((attempts rule patterns name).filter (· ≠ [])).eraseDups := by
  rw [candidates, foldl_addNew, spellings_eq_attempts]

/-! ## Places -/

/-- A place at which a path is looked for: its own if it starts at the root, and otherwise the one
in a directory so many levels up. -/
inductive LookedFor (directory : Path) (tried : List Text) (index : Nat) : Nat → Path → Prop where
  | absolute {candidate : Text} (tries : tried[index]? = some candidate)
      (rooted : Path.isAbsolute ⟨candidate⟩ = true) :
      LookedFor directory tried index 0 ⟨candidate⟩
  | relative {candidate : Text} {level : Nat} {above : Path}
      (tries : tried[index]? = some candidate) (rootless : Path.isAbsolute ⟨candidate⟩ = false)
      (stands : directory.up level = some above) :
      LookedFor directory tried index level (above.join ⟨candidate⟩)

variable {tried : List Text} {index level : Nat} {place : Path}

/-- The places of a path are listed from the nearest on. -/
theorem lookedFor_iff (habsolute : requiring.isAbsolute = true)
    (hdirectory : requiring.parent? = some directory) :
    LookedFor directory tried index level place ↔ ∃ candidate, tried[index]? = some candidate ∧
      (places directory ⟨candidate⟩)[level]? = some place := by
  have habove := Path.getElem?_ancestors_parent habsolute hdirectory
  constructor
  · rintro (⟨htries, hrooted⟩ | ⟨htries, hrootless, hstands⟩)
    · exact ⟨_, htries, by simp [places, hrooted]⟩
    · exact ⟨_, htries, by simp [places, hrootless, habove, hstands]⟩
  · rintro ⟨candidate, htries, hplace⟩
    unfold places at hplace
    split at hplace
    · rename_i hrooted
      obtain ⟨rfl, rfl⟩ : level = 0 ∧ place = ⟨candidate⟩ := by
        cases level <;> simp_all
      exact .absolute htries hrooted
    · rename_i hrootless
      rw [List.getElem?_map, Option.map_eq_some_iff, habove] at hplace
      obtain ⟨above, hstands, rfl⟩ := hplace
      exact .relative htries (Bool.not_eq_true _ ▸ hrootless) hstands

/-- The places of a module are those of its candidates. -/
theorem mem_allPlaces (habsolute : requiring.isAbsolute = true) :
    place ∈ allPlaces rule patterns requiring name ↔
      ∃ directory ∈ requiring.parent?, ∃ index level,
        LookedFor directory (candidates rule patterns name) index level place := by
  unfold allPlaces
  cases hdirectory : requiring.parent? with
  | none => simp
  | some directory =>
    simp only [lookedFor_iff habsolute hdirectory, Option.mem_some_iff, exists_eq_left']
    constructor
    · intro hplace
      obtain ⟨candidate, htries, hplace⟩ := List.mem_flatMap.mp hplace
      obtain ⟨index, htries⟩ := List.mem_iff_getElem?.mp htries
      obtain ⟨level, hplace⟩ := List.mem_iff_getElem?.mp hplace
      exact ⟨index, level, candidate, htries, hplace⟩
    · rintro ⟨index, level, candidate, htries, hplace⟩
      exact List.mem_flatMap.mpr
        ⟨candidate, List.mem_of_getElem? htries, List.mem_of_getElem? hplace⟩

/-! ## The first file -/

/-- What is found first in lists put together is in the first list that has anything to find, and
is the first of its kind there. -/
theorem exists_first_of_find?_flatMap {α β : Type} {p : β → Bool} {f : α → List β}
    {values : List α} {found : β} (hfound : (values.flatMap f).find? p = some found) :
    ∃ index value level, values[index]? = some value ∧ (f value)[level]? = some found ∧
      ∀ (other above : Nat) late late', values[other]? = some late →
        (f late)[above]? = some late' → p late' = true →
          index < other ∨ index = other ∧ level ≤ above := by
  rw [List.find?_flatMap, List.findSome?_eq_some_iff] at hfound
  obtain ⟨before, value, behind, rfl, hvalue, hnone⟩ := hfound
  obtain ⟨-, level, hlevel, hget, hfirst⟩ := List.find?_eq_some_iff_getElem.mp hvalue
  refine ⟨before.length, value, level, by simp, List.getElem?_eq_some_iff.mpr ⟨hlevel, hget⟩, ?_⟩
  intro other above late late' hlate hlate' hp
  rcases lt_trichotomy before.length other with hlt | rfl | hgt
  · exact Or.inl hlt
  · refine Or.inr ⟨rfl, Nat.le_of_not_lt fun habove => ?_⟩
    obtain rfl : value = late := by simpa using hlate
    obtain ⟨hbound, rfl⟩ := List.getElem?_eq_some_iff.mp hlate'
    exact absurd hp (by simpa using hfirst above habove)
  · rw [List.getElem?_append_left hgt] at hlate
    have hmissing := hnone late (List.mem_of_getElem? hlate)
    exact absurd hp (List.find?_eq_none.mp hmissing late' (List.mem_of_getElem? hlate'))

/-- A module is found under a normal path: the file that it names is the one at the first place,
by candidates and then by levels, at which there is a file. -/
structure Finds (tree : FileTree) (directory : Path) (tried : List Text) (normal : Path)
    (index level : Nat) (place : Path) (spot : List Text) : Prop where
  lookedFor : LookedFor directory tried index level place
  namesFile : tree.NamesFile place spot
  first : ∀ other above late, LookedFor directory tried other above late →
    tree.isFile late = true → index < other ∨ index = other ∧ level ≤ above
  normalize : place.normalize? = some normal
  isAbsolute : normal.isAbsolute = true
  plain : ∀ piece ∈ normal.pieces, piece ≠ ['.'] ∧ piece ≠ ['.', '.']
  namesSame : tree.NamesFile normal spot

/-- Nothing is found exactly where there is no file at any place. -/
theorem file?_eq_none_iff : file? tree rule patterns requiring name = none ↔
    ∀ place ∈ allPlaces rule patterns requiring name, tree.isFile place = false := by
  have hnormal : ∀ found, tree.isFile found = true → found.normalize? ≠ none := by
    intro found hfile
    obtain ⟨spot, hnames⟩ := FileTree.isFile_iff.mp hfile
    rw [Path.normalize?_eq hnames.isAbsolute]
    exact Option.some_ne_none _
  unfold file?
  constructor
  · intro hnone
    cases hfound : (allPlaces rule patterns requiring name).find? tree.isFile with
    | none => simpa using hfound
    | some found =>
      rw [hfound] at hnone
      exact absurd hnone (hnormal found (List.find?_some hfound))
  · intro hmissing
    have hnothing : (allPlaces rule patterns requiring name).find? tree.isFile = none := by
      simpa using hmissing
    rw [hnothing]
    rfl

/-- What is found is found at the first place with a file. -/
theorem exists_finds {normal : Path} (habsolute : requiring.isAbsolute = true)
    (hfile : file? tree rule patterns requiring name = some normal) :
    ∃ directory ∈ requiring.parent?, ∃ index level place spot,
      Finds tree directory (candidates rule patterns name) normal index level place spot := by
  obtain ⟨place, hplace, hnormal⟩ := Option.bind_eq_some_iff.mp hfile
  obtain ⟨spot, hnames⟩ := FileTree.isFile_iff.mp (List.find?_some hplace)
  unfold allPlaces at hplace
  cases hdirectory : requiring.parent? with
  | none =>
    rw [hdirectory] at hplace
    cases hplace
  | some directory =>
    rw [hdirectory] at hplace
    obtain ⟨index, candidate, level, htries, hlevel, hfirst⟩ := exists_first_of_find?_flatMap hplace
    have hnormalised := Path.isNormal_of_normalize? hnames.isAbsolute hnormal
    have hsame := hnames.normalize hnormal
    refine ⟨directory, rfl, index, level, place, spot, ?_, hnames, ?_, hnormal, hsame.isAbsolute,
      hnormalised.plain, hsame⟩
    · exact (lookedFor_iff habsolute hdirectory).mpr ⟨candidate, htries, hlevel⟩
    · intro other above late hlate hexists
      obtain ⟨candidate', htries', hlevel'⟩ := (lookedFor_iff habsolute hdirectory).mp hlate
      exact hfirst other above candidate' late htries' hlevel' hexists

/-- The file of a module is the first among its places, and there is none exactly if none of the
places holds a file. Its candidates are told in order, and each of them once. -/
theorem file?_finds_first (tree : FileTree) (rule : SearchRule) (patterns : List Text)
    (name : Text) (habsolute : requiring.isAbsolute = true) :
    (file? tree rule patterns requiring name = none ↔
      ∀ directory ∈ requiring.parent?, ∀ index level place,
        LookedFor directory (candidates rule patterns name) index level place →
          tree.isFile place = false) ∧
    (∀ normal, file? tree rule patterns requiring name = some normal →
      ∃ directory ∈ requiring.parent?, ∃ index level place spot,
        Finds tree directory (candidates rule patterns name) normal index level place spot) ∧
    (requiring.parent? = none ↔ requiring.parts = [.root]) ∧
    candidates rule patterns name = ((attempts rule patterns name).filter (· ≠ [])).eraseDups ∧
    (candidates rule patterns name).Nodup ∧ [] ∉ candidates rule patterns name := by
  have hcandidates := candidates_eq rule patterns name
  refine ⟨?_, fun normal => exists_finds habsolute, Path.parent?_eq_none_iff habsolute,
    hcandidates, ?_, ?_⟩
  · rw [file?_eq_none_iff]
    constructor
    · intro hmissing directory hdirectory index level place hplace
      exact hmissing place
        ((mem_allPlaces habsolute).mpr ⟨directory, hdirectory, index, level, hplace⟩)
    · intro hmissing place hplace
      obtain ⟨directory, hdirectory, index, level, hplace⟩ := (mem_allPlaces habsolute).mp hplace
      exact hmissing directory hdirectory index level place hplace
  · exact hcandidates ▸ Scope.nodup_eraseDups _
  · simp [hcandidates]

/-- A module beside the requiring file and one a directory above it, whose path is tried earlier. -/
def nested : FileTree :=
  let file : File := ⟨[], 0⟩
  let p := "p".toList
  let src := "src".toList
  ⟨[([p, "a.b.lua".toList], file), ([p, src, "a".toList, "b.lua".toList], file)],
    [[p], [p, src], [p, src, "a".toList]], 0⟩

/-- A module in a directory above, found by its second spelling. -/
theorem file?_finds_first_nested :
    let rule : SearchRule := ⟨"lua".toList, '?'⟩
    let patterns := ["./?.lua".toList]
    let requiring : Path := ⟨"/p/src/../src/main.lua".toList⟩
    let tried := candidates rule patterns "a.b".toList
    requiring.isAbsolute = true ∧ tried.length = 8 ∧ tried.Nodup ∧
      ∃ directory ∈ requiring.parent?, ∃ index level place spot,
        Finds nested directory tried ⟨"/p/a.b.lua".toList⟩ index level place spot := by
  intro rule patterns requiring tried
  have habsolute : requiring.isAbsolute = true := rfl
  obtain ⟨_, hfinds, _, _, hnodup, _⟩ :=
    file?_finds_first nested rule patterns "a.b".toList habsolute
  exact ⟨habsolute, by decide +kernel, hnodup, hfinds _ (by decide +kernel)⟩

end Resolve

end LuaAssist

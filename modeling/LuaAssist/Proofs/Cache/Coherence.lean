import LuaAssist.Proofs.Cache.Recorded
import LuaAssist.Proofs.Lookup

/-!
# A cache of files over time

Files are written, replaced and deleted while a cache is asked for their values. As long as what
is new at a place is never older than a reading before it, the cache gives the values of the files
as they are, and it does not compute the value of a file that is older than its last reading.
-/

namespace LuaAssist

namespace FileTree

variable {tree next : FileTree} {times : List Int}

/-- Files as they follow each other: a file that was not there before, with these bytes and this
time, has been written at none of the given times or later. -/
def Follows (times : List Int) (tree next : FileTree) : Prop :=
  ∀ place, ∀ file ∈ next.fileAt? place,
    tree.fileAt? place = some file ∨ ∀ time ∈ times, time ≤ file.modified

/-- The same files follow each other, whatever happens to directories and to the clock. -/
theorem follows_of_files_eq (times : List Int) (hfiles : next.files = tree.files) :
    Follows times tree next := by
  intro place file hfile
  left
  rw [fileAt?, ← hfiles]
  exact hfile

/-- On a way directories are made, and nothing else. -/
theorem files_makeWay (tree : FileTree) (place : List Text) (pieces : List Text) :
    (tree.makeWay place pieces).1.files = tree.files := by
  induction pieces generalizing tree place with
  | nil => rfl
  | cons piece rest ih =>
    rw [makeWay, ih]
    unfold addDirectory
    split <;> rfl

/-- What is found without the files of a place is found with them, for it is at another place. -/
theorem lookup_of_lookup_filter {files : List (List Text × File)} {place removed : List Text}
    {file : File}
    (hfile : (files.filter fun (other, _) => other ≠ removed).lookup place = some file) :
    files.lookup place = some file := by
  rw [lookup_filter_ne] at hfile
  split at hfile
  · cases hfile
  · exact hfile

/-- A file that is written takes the place of the one that was there. -/
theorem exists_files_write (tree : FileTree) (path : Path) (file : File) :
    ∃ written, (tree.write path file).files =
      (written, file) :: tree.files.filter fun (place, _) => place ≠ written := by
  refine ⟨step (tree.makeWay [] path.pieces.dropLast).2 (path.pieces.getLast?.getD []), ?_⟩
  show (_, file) :: List.filter _ (tree.makeWay [] path.pieces.dropLast).1.files = _
  rw [files_makeWay]

/-- A file that is written follows if it is not older than the given times. -/
theorem follows_write (path : Path) {file : File} (hlate : ∀ time ∈ times, time ≤ file.modified) :
    Follows times tree (tree.write path file) := by
  intro place found hfound
  obtain ⟨written, hfiles⟩ := exists_files_write tree path file
  rw [fileAt?, hfiles, lookup_cons_eq_ite] at hfound
  split at hfound
  · rw [← Option.some.inj hfound]
    exact Or.inr hlate
  · exact Or.inl (lookup_of_lookup_filter hfound)

/-- After a deletion there is no new file. -/
theorem follows_delete (times : List Int) (tree : FileTree) (path : Path) :
    Follows times tree (tree.delete path) := by
  intro place found hfound
  unfold delete at hfound
  split at hfound
  · exact Or.inl hfound
  · exact Or.inl (lookup_of_lookup_filter hfound)

/-- A directory is no new file. -/
theorem follows_makeDirectory (times : List Int) (tree : FileTree) (path : Path) :
    Follows times tree (tree.makeDirectory path) :=
  follows_of_files_eq times (files_makeWay tree [] path.pieces)

end FileTree

namespace FileCache

variable {α : Type} {parse : Text → α} {default : α} {tree : FileTree} {times : List Int}
  {looks : List FileTree} {cache : FileCache α}

/-- A request reads a file: nothing may be served, and the file has a text. -/
def reads (cache : FileCache α) (tree : FileTree) (path : Path) : Bool :=
  (cache.served? tree path).isNone && (tree.text? path).isSome

/-- What a cache holds after any requests for the values of files, between which paths were
forgotten and the files have changed. The times are those at which files were read. -/
inductive Reached (parse : Text → α) (default : α) : FileTree → List Int → FileCache α → Prop where
  | start (tree : FileTree) : Reached parse default tree [] empty
  | asked {tree : FileTree} {times : List Int} {cache : FileCache α} (path : Path)
      (hreached : Reached parse default tree times cache) :
      Reached parse default tree (if cache.reads tree path then tree.clock :: times else times)
        (cache.get parse default tree path).2
  | forgotten {tree : FileTree} {times : List Int} {cache : FileCache α} (path : Path)
      (hreached : Reached parse default tree times cache) :
      Reached parse default tree times (cache.invalidate path)
  | changed {tree : FileTree} {times : List Int} {cache : FileCache α} (next : FileTree)
      (hreached : Reached parse default tree times cache)
      (hfollows : FileTree.Follows times tree next) :
      Reached parse default next times cache

/-- A look at the files is up to date: what stands in a tree now stood there at the look, or has
been written since. -/
def UpToDate (tree look : FileTree) : Prop :=
  ∀ place, ∀ file ∈ tree.fileAt? place,
    look.fileAt? place = some file ∨ look.clock ≤ file.modified

/-- At the look itself all is up to date. -/
theorem upToDate_self (tree : FileTree) : UpToDate tree tree := fun _ _ => Or.inl

/-- A look that is up to date finds no other content under an earlier time. -/
theorem UpToDate.precedes {look : FileTree} (hlook : UpToDate tree look) :
    look.Precedes tree := by
  intro place old hold new hnew
  rcases hlook place new hnew with hsame | hlate
  · rw [Option.mem_unique hold hsame]
    exact Or.inl rfl
  · exact Or.inr hlate

/-- Looks stay up to date as files follow each other that are not older than the looks. -/
theorem UpToDate.follows {look next : FileTree} (hlook : UpToDate tree look)
    (hfollows : FileTree.Follows times tree next) (htime : look.clock ∈ times) :
    UpToDate next look := by
  intro place file hfile
  rcases hfollows place file hfile with hsame | hlate
  · exact hlook place file hsame
  · exact Or.inr (hlate _ htime)

/-- A request records at most what it reads. -/
theorem Recorded.asked {parse : List Path.Part → Text → α} (hrecorded : cache.Recorded parse looks)
    (default : α) (path : Path) :
    (cache.get (parse path.parts) default tree path).2.Recorded parse
      (if cache.reads tree path then tree :: looks else looks) := by
  split
  · exact (hrecorded.mono (List.subset_cons_self tree looks)).get_snd List.mem_cons_self default
  · rename_i hreads
    have hsame : (cache.get (parse path.parts) default tree path).2 = cache := by
      unfold reads at hreads
      unfold get
      cases hserved : cache.served? tree path with
      | some value => rfl
      | none =>
        cases htext : tree.text? path with
        | none => rfl
        | some text => simp [hserved, htext] at hreads
    rw [hsame]
    exact hrecorded

/-- What a cache holds was read at looks at the times of its readings, all of which are up to
date. -/
theorem Reached.exists_looks (hreached : Reached parse default tree times cache) :
    ∃ looks : List FileTree, looks.map FileTree.clock = times ∧
      (∀ look ∈ looks, UpToDate tree look) ∧ cache.Recorded (fun _ => parse) looks := by
  induction hreached with
  | start tree => exact ⟨[], rfl, fun _ hmem => (nomatch hmem), recorded_empty _ _⟩
  | @asked tree times cache path _ ih =>
    obtain ⟨looks, htimes, hlooks, hrecorded⟩ := ih
    refine ⟨if cache.reads tree path then tree :: looks else looks, ?_, ?_,
      hrecorded.asked default path⟩
    · split
      · rw [List.map_cons, htimes]
      · exact htimes
    · split
      · intro look hmem
        rcases List.mem_cons.mp hmem with rfl | hmem
        · exact upToDate_self look
        · exact hlooks look hmem
      · exact hlooks
  | forgotten path _ ih =>
    obtain ⟨looks, htimes, hlooks, hrecorded⟩ := ih
    exact ⟨looks, htimes, hlooks, hrecorded.invalidate path⟩
  | changed next _ hfollows ih =>
    obtain ⟨looks, htimes, hlooks, hrecorded⟩ := ih
    refine ⟨looks, htimes, fun look hmem => ?_, hrecorded⟩
    exact (hlooks look hmem).follows hfollows (htimes ▸ List.mem_map_of_mem hmem)

/-- A file that is older than its last reading is served, whatever would be computed from it. -/
theorem get_of_fresh {path : Path} {kept : Kept α} {file : File}
    (hkept : cache.find? path = some kept) (hfile : tree.read? path = some file)
    (hfresh : file.modified < kept.readAt) (parse : Text → α) (default : α) :
    cache.get parse default tree path = (kept.value, cache) := by
  have hserved : cache.served? tree path = some kept.value := by
    simp [served?, hfile, hkept, hfresh]
  rw [get, hserved]

/-- After any requests and changes the value of a file is computed from the bytes that it has now,
if it is there and they are a text, and is the default otherwise. While the file is older than the
last reading of it, nothing is computed: another computation would make no difference. -/
theorem get_of_reached (hreached : Reached parse default tree times cache) (path : Path) :
    (cache.get parse default tree path).1 =
        (tree.read? path).elim default (fun file =>
          (Text.ofUtf8? file.bytes).elim default parse) ∧
      ∀ kept ∈ cache.find? path, ∀ file ∈ tree.read? path, file.modified < kept.readAt →
        ∀ other : Text → α, cache.get other default tree path = (kept.value, cache) := by
  obtain ⟨looks, _, hlooks, hrecorded⟩ := hreached.exists_looks
  refine ⟨?_, fun kept hkept file hfile hfresh other => get_of_fresh hkept hfile hfresh other _⟩
  rw [hrecorded.get_fst (fun look hmem => (hlooks look hmem).precedes) default]
  cases hfile : tree.read? path with
  | none => simp [FileTree.text?, hfile]
  | some file =>
    simp only [FileTree.text?, hfile, Option.elim_some]
    show ((Text.ofUtf8? file.bytes).map parse).getD default = _
    cases Text.ofUtf8? file.bytes <;> rfl

/-- The place of a file. -/
def notes : Path := ⟨"/notes".toList⟩

/-- Files with one letter in that file, looked at later. -/
def oneLetter : FileTree := ⟨[(["notes".toList], ⟨[120], 0⟩)], [], 10⟩

/-- Two letters are written at the time of that look. -/
def twoLetters : FileTree := { oneLetter.write notes ⟨[121, 122], 10⟩ with clock := 20 }

/-- A cache that has been asked for the length of the file before and after that. -/
def askedTwice : FileCache Nat :=
  ((empty.get List.length 0 oneLetter notes).2.get List.length 0 twoLetters notes).2

/-- The file is read again where its time is that of the first reading, and then no more. -/
theorem get_of_reached_rewritten :
    (askedTwice.get List.length 0 twoLetters notes).1 = 2 ∧
      askedTwice.get (fun _ => 7) 0 twoLetters notes = (2, askedTwice) := by
  have hstart : Reached List.length 0 oneLetter [] (empty : FileCache Nat) := .start oneLetter
  have hasked := hstart.asked notes
  have hwritten : FileTree.Follows
      (if (empty : FileCache Nat).reads oneLetter notes then [oneLetter.clock] else []) oneLetter
      (oneLetter.write notes ⟨[121, 122], 10⟩) :=
    FileTree.follows_write notes (by decide +kernel)
  have hreached := (hasked.changed twoLetters hwritten).asked notes
  obtain ⟨hvalue, hserved⟩ := get_of_reached hreached notes
  obtain ⟨kept, hkept, htwo, hlater⟩ :
      ∃ kept ∈ askedTwice.find? notes, kept.value = 2 ∧ 10 < kept.readAt := by
    decide +kernel
  have hserves := hserved kept hkept ⟨[121, 122], 10⟩ (by decide +kernel) hlater fun _ => 7
  exact ⟨hvalue.trans (by decide +kernel), hserves.trans (congrArg (·, askedTwice) htwo)⟩

end FileCache

end LuaAssist

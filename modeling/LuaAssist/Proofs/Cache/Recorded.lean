import LuaAssist.Cache.Files
import LuaAssist.Cache.Texts
import LuaAssist.Proofs.Path.Parts

/-!
# What caches have recorded

A cache holds values of texts, or of files as they stood at some look at the tree of files. While
files with other contents are always written after the looks at the old ones, what a cache serves
is what reading would give.
-/

namespace LuaAssist

/-! ## Texts -/

namespace TextCache

variable {α : Type} {parse : Text → α} {cache : TextCache α}

/-- Every value is that of its text. -/
def Recorded (parse : Text → α) (cache : TextCache α) : Prop :=
  ∀ entry ∈ cache.entries, entry.2 = parse entry.1

/-- An empty cache holds no wrong value. -/
theorem recorded_new (parse : Text → α) (capacity : Nat) : (new capacity).Recorded parse :=
  fun _ hmem => nomatch hmem

/-- The value of a text is served or computed, which makes no difference. -/
theorem Recorded.get_fst (hrecorded : cache.Recorded parse) (text : Text) :
    (cache.get parse text).1 = parse text := by
  show (cache.served? text).getD (parse text) = parse text
  cases hserved : cache.served? text with
  | none => rfl
  | some value =>
    obtain ⟨front, behind, heq, _⟩ := List.lookup_eq_some_iff.mp hserved
    exact hrecorded (text, value) (by simp [heq])

/-- A request keeps the values those of their texts. -/
theorem Recorded.get_snd (hrecorded : cache.Recorded parse) (text : Text) :
    (cache.get parse text).2.Recorded parse := by
  have hvalue := hrecorded.get_fst text
  intro entry hmem
  rcases List.mem_cons.mp (List.mem_of_mem_take hmem) with rfl | hmem
  · exact hvalue
  · exact hrecorded entry (List.mem_filter.mp hmem).1

end TextCache

/-! ## Files -/

namespace FileTree

/-- What has another content than at an earlier look was written no earlier than that look. -/
def Precedes (earlier later : FileTree) : Prop :=
  ∀ place, ∀ old ∈ earlier.fileAt? place, ∀ new ∈ later.fileAt? place,
    old.bytes = new.bytes ∨ earlier.clock ≤ new.modified

/-- What is found is one of the files. -/
theorem mem_files_of_fileAt? {tree : FileTree} {place : List Text} {file : File}
    (hfile : tree.fileAt? place = some file) : (place, file) ∈ tree.files := by
  obtain ⟨front, behind, heq, _⟩ := List.lookup_eq_some_iff.mp hfile
  simp [heq]

/-- The places that matter are those of the files at the earlier look. -/
instance (earlier later : FileTree) : Decidable (earlier.Precedes later) :=
  decidable_of_iff (∀ entry ∈ earlier.files, ∀ old ∈ earlier.fileAt? entry.1,
      ∀ new ∈ later.fileAt? entry.1, old.bytes = new.bytes ∨ earlier.clock ≤ new.modified) <| by
    constructor
    · intro hfiles place old hold
      exact hfiles (place, old) (mem_files_of_fileAt? hold) old hold
    · intro hprecedes entry _
      exact hprecedes entry.1

/-- At one look there is one content. -/
theorem precedes_self (tree : FileTree) : tree.Precedes tree := by
  intro place old hold new hnew
  rw [Option.mem_unique hold hnew]
  exact Or.inl rfl

end FileTree

namespace FileCache

variable {α : Type} {parse : List Path.Part → Text → α} {looks : List FileTree}
  {cache : FileCache α} {tree : FileTree} {path : Path}

/-- Every value is that of its file as it stood at a look of the time of its reading. -/
def Recorded (parse : List Path.Part → Text → α) (looks : List FileTree) (cache : FileCache α) :
    Prop :=
  ∀ kept ∈ cache.entries, ∃ look ∈ looks, look.clock = kept.readAt ∧
    ∃ file ∈ look.fileAt? (Path.placeOf kept.key), ∃ text ∈ Text.ofUtf8? file.bytes,
      kept.value = parse kept.key text

/-- An empty cache holds no wrong value. -/
theorem recorded_empty (parse : List Path.Part → Text → α) (looks : List FileTree) :
    empty.Recorded parse looks :=
  fun _ hmem => nomatch hmem

/-- What was recorded stays so as there are more looks. -/
theorem Recorded.mono {more : List FileTree} (hrecorded : cache.Recorded parse looks)
    (hmore : looks ⊆ more) : cache.Recorded parse more := by
  intro kept hmem
  obtain ⟨look, hlook, hvalue⟩ := hrecorded kept hmem
  exact ⟨look, hmore hlook, hvalue⟩

/-- Forgetting a path leaves the other values as they are. -/
theorem Recorded.invalidate (hrecorded : cache.Recorded parse looks) (path : Path) :
    (cache.invalidate path).Recorded parse looks :=
  fun kept hmem => hrecorded kept (List.mem_filter.mp hmem).1

/-- What is served is what reading would give. -/
theorem Recorded.served? (hrecorded : cache.Recorded parse looks)
    (hlooks : ∀ look ∈ looks, look.Precedes tree) {value : α}
    (hserved : cache.served? tree path = some value) :
    (tree.text? path).map (parse path.parts) = some value := by
  obtain ⟨file, hfile, hserved⟩ := Option.bind_eq_some_iff.mp hserved
  obtain ⟨kept, hkept, hserved⟩ := Option.bind_eq_some_iff.mp hserved
  have hkey : kept.key = path.parts := by simpa using List.find?_some hkept
  obtain ⟨look, hlook, hclock, old, hold, text, htext, hvalue⟩ :=
    hrecorded kept (List.mem_of_find?_eq_some hkept)
  split at hserved
  · rename_i hfresh
    rw [hkey] at hold hvalue
    -- A file that is older than the reading has not got another content since.
    have hbytes : old.bytes = file.bytes := by
      rcases hlooks look hlook _ old hold file (FileTree.fileAt?_of_read? hfile) with heq | hlate
      · exact heq
      · omega
    rw [hbytes] at htext
    have hread : tree.text? path = some text := by
      simp only [FileTree.text?, hfile]
      exact htext
    rw [hread, ← Option.some.inj hserved, hvalue]
    rfl
  · cases hserved

/-- The value of a file is what reading gives, whether it is served or not. -/
theorem Recorded.get_fst (hrecorded : cache.Recorded parse looks)
    (hlooks : ∀ look ∈ looks, look.Precedes tree) (default : α) :
    (cache.get (parse path.parts) default tree path).1 =
      ((tree.text? path).map (parse path.parts)).getD default := by
  unfold get
  cases hserved : cache.served? tree path with
  | some value => rw [hrecorded.served? hlooks hserved]; rfl
  | none => cases tree.text? path <;> rfl

/-- What is read is recorded. -/
theorem Recorded.get_snd (hrecorded : cache.Recorded parse looks) (htree : tree ∈ looks)
    (default : α) :
    (cache.get (parse path.parts) default tree path).2.Recorded parse looks := by
  unfold get
  cases hserved : cache.served? tree path with
  | some value => exact hrecorded
  | none =>
    cases htext : tree.text? path with
    | none => exact hrecorded
    | some text =>
      obtain ⟨file, hfile, hutf8⟩ := Option.bind_eq_some_iff.mp htext
      intro kept hmem
      rcases List.mem_cons.mp hmem with rfl | hmem
      · exact ⟨tree, htree, rfl, file, FileTree.fileAt?_of_read? hfile, text, hutf8, rfl⟩
      · exact hrecorded kept (List.mem_filter.mp hmem).1

end FileCache

end LuaAssist

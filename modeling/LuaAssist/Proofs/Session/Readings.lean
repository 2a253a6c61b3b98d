import LuaAssist.Documentation.Store
import LuaAssist.Index
import LuaAssist.Proofs.Cache.Alike
import LuaAssist.Proofs.Path.Places
import LuaAssist.Proofs.Session.Declared

/-!
# What an index and the documentation read

Two indexes with the same rule and without wrong values answer alike, whatever each of them has
read before. The references of a file lead to normal paths, so a file has one origin. The same
holds of the documentation of one directory, however the directory is spelled.
-/

namespace LuaAssist

namespace Resolve

variable {tree : FileTree} {rule : SearchRule}

/-- The file of a module is named by a normal path. -/
theorem isNormal_of_file? {patterns : List Text} {requiring path : Path} {name : Text}
    (hfile : file? tree rule patterns requiring name = some path) : path.IsNormal := by
  obtain ⟨found, hfound, hnormal⟩ := Option.bind_eq_some_iff.mp hfile
  have hexists : tree.isFile found = true := List.find?_some hfound
  have habsolute : found.isAbsolute = true := by
    unfold FileTree.isFile FileTree.read? at hexists
    split at hexists
    · assumption
    · cases hexists
  exact Path.isNormal_of_normalize? habsolute hnormal

/-- Collected paths were known or are among those that are added. -/
theorem mem_of_mem_foldl_addPath {paths known : List Path} {path : Path}
    (hmem : path ∈ paths.foldl addPath known) : path ∈ known ∨ path ∈ paths := by
  induction paths generalizing known with
  | nil => exact Or.inl hmem
  | cons first rest ih =>
    rcases ih hmem with hmem | hmem
    · unfold addPath at hmem
      split at hmem
      · exact Or.inl hmem
      · rcases List.mem_append.mp hmem with hmem | hmem
        · exact Or.inl hmem
        · exact Or.inr (List.mem_cons.mpr (Or.inl (List.mem_singleton.mp hmem)))
    · exact Or.inr (List.mem_cons_of_mem _ hmem)

/-- References lead to normal paths. -/
theorem isNormal_of_mem_paths {requiring path : Path} {declared : Declarations}
    (hmem : path ∈ (dependencies tree rule requiring declared).paths) : path.IsNormal := by
  rcases mem_of_mem_foldl_addPath hmem with hmem | hmem
  · cases hmem
  · obtain ⟨resolved, hresolved, rfl⟩ := List.mem_map.mp hmem
    obtain ⟨reference, _, hreference⟩ := List.mem_filterMap.mp hresolved
    obtain ⟨path, hfile, rfl⟩ := Option.map_eq_some_iff.mp hreference
    exact isNormal_of_file? hfile

end Resolve

namespace Index

/-- The functions of the file at a normal path. -/
def signaturesAt (key : List Path.Part) (text : Text) : List Signature :=
  (Signature.ofText text).map (Signature.withOrigin (Path.ofParts key))

/-- A normal path is the origin that its key names. -/
theorem parse_eq_signaturesAt {path : Path} (hnormal : path.IsNormal) :
    (fun text => (Signature.ofText text).map (Signature.withOrigin path)) =
      signaturesAt path.parts := by
  unfold signaturesAt
  rw [hnormal.ofParts_parts]

/-- An index has a rule, and none of the values that it holds is wrong. -/
structure Faithful (rule : IndexRule) (looks : List FileTree) (index : Index) : Prop where
  ruled : index.rule = rule
  fileSignatures : index.fileSignatures.Recorded signaturesAt looks
  fileDeclarations : index.fileDeclarations.Recorded
    (fun _ => Require.declarations rule.search.placeholder) looks
  textSignatures : index.textSignatures.Recorded Signature.ofText
  textDeclarations : index.textDeclarations.Recorded
    (Require.declarations rule.search.placeholder)

variable {rule : IndexRule} {looks : List FileTree} {index : Index}

/-- A new index has no wrong values. -/
theorem faithful_new (rule : IndexRule) (looks : List FileTree) :
    (new rule).Faithful rule looks where
  ruled := rfl
  fileSignatures := FileCache.recorded_empty _ _
  fileDeclarations := FileCache.recorded_empty _ _
  textSignatures := TextCache.recorded_new _ _
  textDeclarations := TextCache.recorded_new _ _

/-- More looks make no value wrong. -/
theorem Faithful.mono {more : List FileTree} (hfaithful : index.Faithful rule looks)
    (hmore : looks ⊆ more) : index.Faithful rule more :=
  { hfaithful with
    fileSignatures := hfaithful.fileSignatures.mono hmore
    fileDeclarations := hfaithful.fileDeclarations.mono hmore }

/-- Forgetting a file makes no value wrong. -/
theorem Faithful.invalidate (hfaithful : index.Faithful rule looks) (path : Path) :
    (index.invalidate path).Faithful rule looks :=
  { hfaithful with
    fileSignatures := hfaithful.fileSignatures.invalidate path
    fileDeclarations := hfaithful.fileDeclarations.invalidate path }

/-- The standard library is wanted or not by the rule. -/
theorem askAlike_builtins (found : List Signature) :
    AskAlike (Faithful rule looks) (fun _ => True) fun index =>
      (found ++ index.builtins, index) := by
  refine AskAlike.look (found ++ (new rule).builtins) trivial fun index hfaithful => ?_
  unfold builtins
  rw [hfaithful.ruled]
  rfl

/-! ## Open texts -/

/-- The functions of an open text. -/
theorem askAlike_textSignaturesOf (text : Text) :
    AskAlike (Faithful rule looks) (fun _ => True) (textSignaturesOf text) := by
  intro i j hi hj
  refine ⟨?_, trivial, { hi with textSignatures := hi.textSignatures.get_snd text }⟩
  exact (hi.textSignatures.get_fst text).trans (hj.textSignatures.get_fst text).symm

/-- What an index without wrong values holds of open texts is right. -/
theorem Faithful.declared (hfaithful : index.Faithful rule looks) : index.Declared rule :=
  ⟨hfaithful.ruled, hfaithful.textDeclarations⟩

/-- Where the references of an open text lead. -/
theorem askAlike_textDependencies (tree : FileTree) (path : Path) (text : Text) :
    AskAlike (Faithful rule looks) (fun found => ∀ path ∈ found.paths, path.IsNormal)
      (textDependencies tree path text) := by
  intro i j hi hj
  refine ⟨?_, fun _ => Resolve.isNormal_of_mem_paths, ?_⟩
  · rw [hi.declared.textDependencies_fst, hj.declared.textDependencies_fst]
  · obtain rfl := hi.ruled
    exact { hi with textDeclarations := hi.textDeclarations.get_snd text }

/-! ## Files -/

section Files

variable {tree : FileTree} (hlooks : ∀ look ∈ looks, look.Precedes tree)
include hlooks

/-- A file refers to the files that its declarations lead to. -/
theorem Faithful.neighbours_fst (hfaithful : index.Faithful rule looks) (path : Path) :
    (index.neighbours tree path).1 =
      (Resolve.dependencies tree rule.search path
        (((tree.text? path).map (Require.declarations rule.search.placeholder)).getD
          ⟨[], []⟩)).paths := by
  obtain rfl := hfaithful.ruled
  rw [← hfaithful.fileDeclarations.get_fst hlooks]
  rfl

/-- The functions of a file are those of its text. -/
theorem Faithful.signaturesOf_fst (hfaithful : index.Faithful rule looks) {path : Path}
    (hnormal : path.IsNormal) :
    (index.signaturesOf tree path).1 =
      ((tree.text? path).map (signaturesAt path.parts)).getD [] := by
  unfold signaturesOf
  rw [parse_eq_signaturesAt hnormal]
  exact hfaithful.fileSignatures.get_fst hlooks []

variable (htree : tree ∈ looks)
include htree

/-- The functions of a file. -/
theorem askAlike_signaturesOf {path : Path} (hnormal : path.IsNormal) :
    AskAlike (Faithful rule looks) (fun _ => True) (signaturesOf tree path) := by
  intro i j hi hj
  refine ⟨?_, trivial, ?_⟩
  · rw [hi.signaturesOf_fst hlooks hnormal, hj.signaturesOf_fst hlooks hnormal]
  · unfold signaturesOf
    rw [parse_eq_signaturesAt hnormal]
    exact { hi with fileSignatures := hi.fileSignatures.get_snd htree [] }

/-- Where the references of a file lead. -/
theorem askAlike_neighbours (path : Path) :
    AskAlike (Faithful rule looks) (∀ next ∈ ·, Path.IsNormal next) (neighbours tree path) := by
  intro i j hi hj
  refine ⟨?_, fun _ => Resolve.isNormal_of_mem_paths, ?_⟩
  · rw [hi.neighbours_fst hlooks, hj.neighbours_fst hlooks]
  · obtain rfl := hi.ruled
    exact { hi with fileDeclarations := hi.fileDeclarations.get_snd htree _ }

/-- The files that can be reached from some files. -/
theorem askAlike_follow {roots : List Path} (hroots : ∀ path ∈ roots, path.IsNormal)
    (avoided : List Path) :
    AskAlike (Faithful rule looks) (∀ path ∈ ·, Path.IsNormal path) (follow tree roots avoided) :=
  Reach.askAlike_breadthFirst (fun path _ => askAlike_neighbours hlooks htree path) hroots _

/-- The functions of some files. -/
theorem askAlike_signaturesOfAll {paths : List Path} (hpaths : ∀ path ∈ paths, path.IsNormal) :
    AskAlike (Faithful rule looks) (fun _ => True) (signaturesOfAll tree · paths) := by
  induction paths with
  | nil => exact AskAlike.pure trivial
  | cons path rest ih =>
    have hrest := ih fun other hmem => hpaths other (List.mem_cons_of_mem _ hmem)
    exact (askAlike_signaturesOf hlooks htree (hpaths path List.mem_cons_self)).bind _
      fun here _ => hrest.map (here ++ ·)

/-- The files that can be reached from an open text. -/
theorem askAlike_textReachable (path : Path) (text : Text) :
    AskAlike (Faithful rule looks) (∀ path ∈ ·, Path.IsNormal path)
      (textReachable tree path text) :=
  (askAlike_textDependencies tree path text).bind _ fun _ hpaths =>
    askAlike_follow hlooks htree hpaths _

/-- The functions that an open text can use. -/
theorem askAlike_textVisible (path : Path) (text : Text) :
    AskAlike (Faithful rule looks) (fun _ => True) (textVisible tree path text) := by
  have hown : AskAlike (Faithful rule looks) (fun _ => True) (textSignaturesOf text) :=
    askAlike_textSignaturesOf text
  have hvisible := hown.bind _ fun own _ =>
    (askAlike_textReachable hlooks htree path text).bind _ fun files hpaths =>
      (askAlike_signaturesOfAll hlooks htree hpaths).bind _ fun found _ =>
        askAlike_builtins (own ++ found)
  exact hvisible

end Files

end Index

namespace Documentation.Store

/-- A store is of a directory, however that is spelled, and none of the values that it holds is
wrong. -/
structure Faithful (directory : Option (List Path.Part)) (looks : List FileTree) (store : Store) :
    Prop where
  located : store.directory.map Path.parts = directory
  wordFiles : store.wordFiles.Recorded (fun _ => Documentation.words) looks
  memberFiles : store.memberFiles.Recorded (fun _ => MemberTable.ofText) looks
  callFiles : store.callFiles.Recorded (fun _ => CallTable.ofText) looks

variable {directory : Option (List Path.Part)} {looks : List FileTree} {tree : FileTree}

/-- A new store has no wrong values. -/
theorem faithful_new (directory : Option Path) (looks : List FileTree) :
    (new directory).Faithful (directory.map Path.parts) looks where
  located := rfl
  wordFiles := FileCache.recorded_empty _ _
  memberFiles := FileCache.recorded_empty _ _
  callFiles := FileCache.recorded_empty _ _

/-- More looks make no value wrong. -/
theorem Faithful.mono {more : List FileTree} {store : Store}
    (hfaithful : store.Faithful directory looks) (hmore : looks ⊆ more) :
    store.Faithful directory more where
  located := hfaithful.located
  wordFiles := hfaithful.wordFiles.mono hmore
  memberFiles := hfaithful.memberFiles.mono hmore
  callFiles := hfaithful.callFiles.mono hmore

/-- The text of a documentation file does not depend on how the directory is spelled. -/
theorem text_file?_congr {s t : Store} {name : String} (hname : Path.IsName name.toList)
    (hdirectory : s.directory.map Path.parts = t.directory.map Path.parts) :
    (s.file? name).bind tree.text? = (t.file? name).bind tree.text? := by
  unfold file?
  cases hs : s.directory with
  | none =>
    cases ht : t.directory with
    | none => rfl
    | some other => simp [hs, ht] at hdirectory
  | some directory =>
    cases ht : t.directory with
    | none => simp [hs, ht] at hdirectory
    | some other =>
      have hparts : directory.parts = other.parts := by simpa [hs, ht] using hdirectory
      show tree.text? _ = tree.text? _
      unfold FileTree.text?
      rw [FileTree.read?_join_congr hname hparts]

/-- A reading of one file of the directory. -/
theorem askAlike_of_file {α : Type} {ask : Store → α × Store} {name : String}
    (hname : Path.IsName name.toList) (tree : FileTree) (parse : Option Text → α)
    (hask : ∀ store : Store, store.Faithful directory looks →
      (ask store).1 = parse ((store.file? name).bind tree.text?) ∧
        (ask store).2.Faithful directory looks) :
    AskAlike (Faithful directory looks) (fun _ => True) ask := by
  intro s t hs ht
  have hdirectory := hs.located.trans ht.located.symm
  refine ⟨?_, trivial, (hask s hs).2⟩
  rw [(hask s hs).1, (hask t ht).1, text_file?_congr hname hdirectory]

variable (hlooks : ∀ look ∈ looks, look.Precedes tree) (htree : tree ∈ looks)
include hlooks htree

/-- The documented words. -/
theorem askAlike_words : AskAlike (Faithful directory looks) (fun _ => True) (words tree) := by
  have hname : Path.IsName "words".toList := ⟨rfl, by simp⟩
  refine askAlike_of_file hname tree (fun text => (text.map Documentation.words).getD [])
    fun store hfaithful => ?_
  unfold words
  cases store.file? "words" with
  | none => exact ⟨rfl, hfaithful⟩
  | some path =>
    have hrecorded := hfaithful.wordFiles
    exact ⟨hrecorded.get_fst hlooks _, { hfaithful with wordFiles := hrecorded.get_snd htree _ }⟩

/-- The documented types. -/
theorem askAlike_members :
    AskAlike (Faithful directory looks) (fun _ => True) (members tree) := by
  have hname : Path.IsName "members".toList := ⟨rfl, by simp⟩
  refine askAlike_of_file hname tree (fun text => (text.map MemberTable.ofText).getD .empty)
    fun store hfaithful => ?_
  unfold members
  cases store.file? "members" with
  | none => exact ⟨rfl, hfaithful⟩
  | some path =>
    have hrecorded := hfaithful.memberFiles
    exact ⟨hrecorded.get_fst hlooks _, { hfaithful with memberFiles := hrecorded.get_snd htree _ }⟩

/-- The documented functions. -/
theorem askAlike_calls : AskAlike (Faithful directory looks) (fun _ => True) (calls tree) := by
  have hname : Path.IsName "calls".toList := ⟨rfl, by simp⟩
  refine askAlike_of_file hname tree (fun text => (text.map CallTable.ofText).getD .empty)
    fun store hfaithful => ?_
  unfold calls
  cases store.file? "calls" with
  | none => exact ⟨rfl, hfaithful⟩
  | some path =>
    have hrecorded := hfaithful.callFiles
    exact ⟨hrecorded.get_fst hlooks _, { hfaithful with callFiles := hrecorded.get_snd htree _ }⟩

end Documentation.Store

end LuaAssist

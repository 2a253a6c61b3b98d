import LuaAssist.Proofs.Completion.Owners
import LuaAssist.Proofs.Reach.Files
import LuaAssist.Proofs.SampleProject.Lines
import LuaAssist.Proofs.Session.Accepting

/-!
# The methods of a sample project

A document that requires a module of a sample project is offered all methods of the module's table
behind the name of the table, however many there are.
-/

namespace LuaAssist

namespace SampleProject

/-! ## Methods -/

/-- Different methods have different names. -/
theorem methodName_injective (index : Nat) : Function.Injective (methodName index) := by
  intro item other heq
  exact Text.repr_toList_injective (List.cons.inj (List.append_cancel_left heq)).2

/-! ## A document beside the module -/

/-- One module with some methods. -/
def withMethods (count : Nat) : SampleProject := ⟨1, 0, 0, count, 0⟩

/-- The module of that project. -/
def modulePath : Path := ⟨"/project/mod_0.lua".toList⟩

/-- The files of that project. -/
def methodTree (count : Nat) : FileTree :=
  (withMethods count).writeInto ⟨"/project".toList⟩ 0 .empty

/-- The module can be read. -/
theorem text?_methodTree (count : Nat) :
    (methodTree count).text? modulePath = some ((withMethods count).moduleText 0) := by
  have hread : (methodTree count).read? modulePath =
      some ⟨Text.toUtf8 ((withMethods count).moduleText 0), 0⟩ := rfl
  rw [FileTree.text?, hread]
  exact Text.ofUtf8?_toUtf8 _

/-- The module defines its methods. -/
theorem exists_method_definedIn {count item : Nat} (hitem : item < count) :
    ∃ signature ∈ Index.definedIn (methodTree count) modulePath,
      signature.owner = some ['M'] ∧ signature.name = methodName 0 item := by
  refine ⟨((withMethods count).methodSignature 0 item).withOrigin modulePath, ?_, rfl, rfl⟩
  rw [Index.definedIn, text?_methodTree, Option.map_some, Option.getD_some, ofText_moduleText]
  refine List.mem_map_of_mem (List.mem_append_right _ ?_)
  exact List.mem_map_of_mem (List.mem_range.mpr hitem)

/-- The path of a document beside the module. -/
def mainPath : Path := ⟨"/project/main.lua".toList⟩

/-- The document requires the module and asks for a method of its table. -/
def mainText : Text := "require(\"mod_0\")\nM:".toList

/-- The document leads to the module. -/
theorem reaches_module (count : Nat) :
    Index.Reaches (methodTree count) ⟨"lua".toList, '?'⟩ mainPath mainText modulePath := by
  have hdeclarations :
      Require.declarations '?' mainText = ⟨[⟨"mod_0".toList, 0, 9⟩], []⟩ := by decide +kernel
  refine .direct ⟨⟨"mod_0".toList, 0, 9⟩, ?_, ?_⟩ (by decide +kernel)
  · rw [hdeclarations]
    exact List.mem_singleton_self _
  · rw [hdeclarations]
    rfl

end SampleProject

namespace Index

/-- What a file defines that an open text reaches, the text can use. -/
theorem Faithful.mem_textVisible {rule : IndexRule} {tree : FileTree} {index : Index}
    (hfaithful : index.Faithful rule [tree]) {path file : Path} {text : Text}
    (habsolute : path.isAbsolute = true) (hreaches : Reaches tree rule.search path text file)
    {signature : Signature} (hsignature : signature ∈ definedIn tree file) :
    signature ∈ (index.textVisible tree path text).1 := by
  have hlooks : ∀ look ∈ [tree], look.Precedes tree := by
    simpa using tree.precedes_self
  have htree : tree ∈ [tree] := List.mem_singleton_self tree
  have hread := (askAlike_textSignaturesOf text _ _ hfaithful hfaithful).2.2
  obtain ⟨hfiles, hnormal, hfollowed⟩ :=
    askAlike_textReachable hlooks htree path text _ _ hread (faithful_new rule [tree])
  have hfound := hfollowed.signaturesOfAll_fst hlooks htree hnormal
  have hmem := ((mem_textReachable_new habsolute).2 file).mpr hreaches
  rw [← hfiles] at hmem
  have hdefined := List.mem_flatMap_of_mem hmem hsignature
  rw [← hfound] at hdefined
  exact List.mem_append_left _ (List.mem_append_right _ hdefined)

end Index

namespace SampleProject

/-! ## What is offered there -/

/-- The address of the document. -/
def mainUri : Uri :=
  ⟨Uri.fileScheme, some [], none, .segments ["project".toList, "main.lua".toList], none, none⟩

/-- A session in which the document is open and nothing has been read. -/
def mainSession : Session := (Session.new (Config.default none)).openDocument mainUri mainText none

/-- The session has one document open. -/
theorem document?_mainSession : mainSession.document? mainUri = some ⟨mainText, none⟩ := by
  decide +kernel

/-- The document can use every method of the module. -/
theorem exists_method_visible {count item : Nat} (hitem : item < count) :
    ∃ signature ∈ (mainSession.sources (methodTree count) mainUri mainText).visible,
      signature.owner = some ['M'] ∧ signature.name = methodName 0 item := by
  obtain ⟨signature, hsignature, howner, hname⟩ := exists_method_definedIn hitem
  refine ⟨signature, ?_, howner, hname⟩
  have hnew := Index.faithful_new (Config.default none).indexRule [methodTree count]
  have hread := (Index.askAlike_textSignaturesOf mainText _ _ hnew hnew).2.2
  have hpath : mainUri.toPath? = some mainPath := by decide +kernel
  have hvisible := hread.mem_textVisible rfl (reaches_module count) hsignature
  simp only [Session.sources, Session.functions, hpath]
  exact hvisible

/-- Behind the colon every method is offered, however many there are. -/
theorem exists_complete? (count : Nat) :
    ∃ found,
      Completion.complete? mainText (Document.offsetOf mainText ⟨1, 2⟩) .explicit false
        (mainSession.sources (methodTree count) mainUri mainText) = some found ∧
      count ≤ found.candidates.length := by
  let sources := mainSession.sources (methodTree count) mainUri mainText
  let offered := Pool.merge (Completion.separatorPools .method mainText 19 18 sources).1
  have hoffset : min (Document.offsetOf mainText ⟨1, 2⟩) mainText.length = 19 := by decide +kernel
  have hplace : Completion.placeAt mainText 19 = (.method, some 18) := by decide +kernel
  have hnames : ∀ item < count, methodName 0 item ∈ offered.map Candidate.text := by
    intro item hitem
    obtain ⟨signature, husable, howner, hname⟩ := exists_method_visible hitem
    rw [← hname]
    exact (Completion.mem_separatorPools (Or.inr rfl) (by decide +kernel) 19 sources _).mpr
      (Or.inl (.function husable howner))
  have hsubset : (List.range count).map (methodName 0) ⊆ offered.map Candidate.text := by
    intro name hname
    obtain ⟨item, hitem, rfl⟩ := List.mem_map.mp hname
    exact hnames item (List.mem_range.mp hitem)
  have hnodup : ((List.range count).map (methodName 0)).Nodup :=
    List.nodup_range.map (methodName_injective 0)
  have hcount := (hnodup.subperm hsubset).length_le
  rw [List.length_map, List.length_map, List.length_range] at hcount
  refine ⟨⟨.method, offered, 19, (Completion.separatorPools .method mainText 19 18 sources).2⟩, ?_,
    hcount⟩
  simp only [Completion.complete?, hoffset, hplace]
  rfl

end SampleProject

end LuaAssist

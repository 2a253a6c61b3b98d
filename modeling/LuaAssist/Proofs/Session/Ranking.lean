import LuaAssist.Proofs.Session.SampleMethods

/-!
# The order of candidates in an editor

An editor sorts the items of an answer by a text. This text is the number of the item, with zeros
in front of it up to five digits. Texts of one length are ordered as their numbers are, so the
editor keeps the order of the candidates as long as five digits are enough: up to a hundred
thousand items.
-/

namespace LuaAssist.Session

open SampleProject

/-! ## Ranks -/

/-- A rank consists of digits. -/
theorem isDecimal_rank (index : Nat) : (rank index).IsDecimal := by
  refine List.forall_mem_append.mpr ⟨fun c hzero => ?_, Text.isDecimal_repr index⟩
  rw [(List.mem_replicate.mp hzero).2]
  rfl

/-- A rank stands for its number. -/
theorem decimalValue_rank (index : Nat) : Text.decimalValue (rank index) = index :=
  Text.decimalValue_replicate_append _ index

/-- Below a hundred thousand ranks have five digits. -/
theorem length_rank {index : Nat} (hindex : index < 100000) : (rank index).length = 5 := by
  have hdigits : (Nat.repr index).toList.length ≤ 5 :=
    (Text.length_repr_le_iff (by decide)).mpr hindex
  rw [rank, List.length_append, List.length_replicate, Nat.sub_add_cancel hdigits]

/-- Below a hundred thousand ranks are ordered as the numbers are. -/
theorem rank_lt_rank {first second : Nat} (hless : first < second) (hsecond : second < 100000) :
    rank first < rank second := by
  have hlength : (rank first).length = (rank second).length :=
    (length_rank (Nat.lt_trans hless hsecond)).trans (length_rank hsecond).symm
  rwa [(isDecimal_rank first).lt_iff (isDecimal_rank second) hlength, decimalValue_rank,
    decimalValue_rank]

/-- What holds of all ranks in their order holds of the last with five digits and the next. -/
theorem rank_of_pairwise {relation : Text → Text → Prop} {count : Nat}
    (hranks : ((List.range count).map rank).Pairwise relation) (hcount : 100000 < count) :
    relation (rank 99999) (rank 100000) := by
  have hlength : ((List.range count).map rank).length = count := by simp
  have hnext := List.pairwise_iff_getElem.mp hranks 99999 100000 (by omega) (by omega) (by decide)
  simpa using hnext

/-- Ranks of the numbers below a count increase as far as five digits are enough. -/
theorem pairwise_rank_iff {count : Nat} :
    ((List.range count).map rank).Pairwise (· < ·) ↔ count ≤ 100000 := by
  constructor
  · intro hranks
    by_contra hmore
    exact absurd (rank_of_pairwise hranks (Nat.lt_of_not_le hmore)) (by decide)
  · intro hcount
    refine List.pairwise_map.mpr (List.pairwise_lt_range.imp_of_mem fun _ hsecond hless => ?_)
    exact rank_lt_rank hless (Nat.lt_of_lt_of_le (List.mem_range.mp hsecond) hcount)

/-! ## Items -/

/-- The items have the texts of the candidates, and their numbers for sorting. -/
theorem map_itemsFrom (place : Place) (range : Range) (index : Nat) (candidates : List Candidate) :
    (itemsFrom place range index candidates).map Item.label = candidates.map Candidate.text ∧
      (itemsFrom place range index candidates).map Item.sortText =
        (List.range' index candidates.length).map rank := by
  induction candidates generalizing index with
  | nil => exact ⟨rfl, rfl⟩
  | cons candidate rest ih =>
    obtain ⟨hlabels, hranks⟩ := ih (index + 1)
    exact ⟨congrArg (candidate.text :: ·) hlabels, congrArg (rank index :: ·) hranks⟩

/-- Items in the order of their texts for sorting, as an editor shows them. -/
def Sorted (items : List Item) : Prop :=
  (items.map Item.sortText).Pairwise fun first second => ¬second < first

/-- Items can be sorted. -/
theorem exists_sorted (items : List Item) :
    ∃ shown : List Item, shown.Perm items ∧ Sorted shown := by
  let order : Item → Item → Bool := fun a b => !decide (b.sortText < a.sortText)
  have horder : ∀ {a b}, order a b = true ↔ ¬b.sortText < a.sortText := by simp [order]
  have htrans : ∀ a b c, order a b = true → order b c = true → order a c = true := by
    intro a b c hab hbc
    rw [horder, List.not_lt] at hab hbc ⊢
    exact List.le_trans hab hbc
  have htotal : ∀ a b, (order a b || order b a) = true := by
    intro a b
    rw [Bool.or_eq_true, horder, horder, List.not_lt, List.not_lt]
    exact List.le_total a.sortText b.sortText
  have hsorted := List.pairwise_mergeSort htrans htotal items
  exact ⟨items.mergeSort order, List.mergeSort_perm items order,
    List.pairwise_map.mpr (hsorted.imp horder.mp)⟩

/-- Items with increasing texts are sorted, and in no other order. -/
theorem eq_of_sorted {items shown : List Item}
    (hincreasing : (items.map Item.sortText).Pairwise (· < ·)) (hperm : shown.Perm items)
    (hsorted : Sorted shown) : shown = items := by
  have hless := List.pairwise_map.mp hincreasing
  have hnodup : (items.map Item.sortText).Nodup := by
    refine hincreasing.imp fun hless heq => ?_
    rw [heq] at hless
    exact List.lt_irrefl _ hless
  refine hperm.eq_of_pairwise (fun a b ha hb hab hba => ?_) (List.pairwise_map.mp hsorted)
    (hless.imp List.lt_asymm)
  exact List.inj_on_of_nodup_map hnodup (hperm.mem_iff.mp ha) hb
    (List.le_antisymm (List.not_lt.mp hab) (List.not_lt.mp hba))

/-- The items of an answer are the candidates in the order that completion gives them. Their texts
for sorting increase, and an editor that sorts by these texts keeps that order, exactly if there
are at most a hundred thousand items. -/
theorem completion_sorted_iff {tree : FileTree} {uri : Uri} {position : Position}
    {reason : Trigger} {session : Session} {document : OpenDocument} {answer : Items}
    (hopen : session.document? uri = some document)
    (hanswer : (session.completion tree uri position reason).1 = some answer) :
    (∃ found,
      Completion.complete? document.text (Document.offsetOf document.text position) reason
        session.config.whenIdle (session.sources tree uri document.text) = some found ∧
      answer.items.map Item.label = found.candidates.map Candidate.text) ∧
      ((answer.items.map Item.sortText).Pairwise (· < ·) ↔ answer.items.length ≤ 100000) ∧
      ((∀ shown : List Item, shown.Perm answer.items → Sorted shown → shown = answer.items) ↔
        answer.items.length ≤ 100000) := by
  rw [completion_fst hopen] at hanswer
  obtain ⟨found, hfound, rfl⟩ := Option.map_eq_some_iff.mp hanswer
  obtain ⟨hlabels, hranks⟩ := map_itemsFrom found.place
    ⟨Document.positionOf document.text found.insertOffset, position⟩ 0 found.candidates
  dsimp only
  generalize itemsFrom found.place
    ⟨Document.positionOf document.text found.insertOffset, position⟩ 0 found.candidates = items
    at hlabels hranks ⊢
  have hlength : found.candidates.length = items.length := by
    rw [← List.length_map Candidate.text, ← hlabels, List.length_map]
  rw [hlength, ← List.range_eq_range'] at hranks
  have hincreasing : (items.map Item.sortText).Pairwise (· < ·) ↔ items.length ≤ 100000 := by
    rw [hranks, pairwise_rank_iff]
  refine ⟨⟨found, hfound, hlabels⟩, hincreasing, fun hkept => ?_, fun hfew shown => ?_⟩
  · obtain ⟨shown, hperm, hsorted⟩ := exists_sorted items
    rw [hkept shown hperm hsorted, Sorted, hranks] at hsorted
    by_contra hmore
    exact rank_of_pairwise hsorted (Nat.lt_of_not_le hmore) (by decide)
  · exact eq_of_sorted (hincreasing.mpr hfew)

/-- Two names, and the word with which both begin. -/
def twoNamesText : Text := "local counter, counts\ncount".toList

/-- A session with that document, without the standard library. -/
def twoNamesSession : Session :=
  (Session.new { Config.default none with builtins := false }).openDocument draft twoNamesText none

/-- The two names behind that word. -/
def twoNamesAnswer : Items :=
  let range : Range := ⟨⟨1, 0⟩, ⟨1, 5⟩⟩
  ⟨false, [⟨"counts".toList, .variable, "00000".toList, ⟨range, "counts".toList⟩⟩,
    ⟨"counter".toList, .variable, "00001".toList, ⟨range, "counter".toList⟩⟩]⟩

/-- An editor keeps two names in their order. -/
theorem completion_sorted_iff_twoNames :
    twoNamesSession.document? draft = some ⟨twoNamesText, none⟩ ∧
      (twoNamesSession.completion ⟨[], [], 0⟩ draft ⟨1, 5⟩ .explicit).1 = some twoNamesAnswer ∧
      (twoNamesAnswer.items.map Item.sortText).Pairwise (· < ·) ∧
      ∀ shown : List Item, shown.Perm twoNamesAnswer.items → Sorted shown →
        shown = twoNamesAnswer.items := by
  have hopen : twoNamesSession.document? draft = some ⟨twoNamesText, none⟩ := by decide +kernel
  have hcursor : Document.offsetOf twoNamesText ⟨1, 5⟩ = 27 := by decide +kernel
  have hanswer : (twoNamesSession.completion ⟨[], [], 0⟩ draft ⟨1, 5⟩ .explicit).1 =
      some twoNamesAnswer := by
    rw [completion_fst hopen]
    simp only [Completion.complete?, hcursor, Completion.merge_wordPools]
    decide +kernel
  obtain ⟨-, hincreasing, hkept⟩ := completion_sorted_iff hopen hanswer
  exact ⟨hopen, hanswer, hincreasing.mpr (by decide), hkept.mpr (by decide)⟩

/-- Of more than a hundred thousand methods two that follow each other are numbered so that an
editor exchanges them. -/
theorem completion_not_sorted :
    ∃ answer first second,
      (mainSession.completion (methodTree 100001) mainUri ⟨1, 2⟩ .explicit).1 = some answer ∧
      answer.items[99999]? = some first ∧ first.sortText = "99999".toList ∧
      answer.items[100000]? = some second ∧ second.sortText = "100000".toList ∧
      ¬first.sortText < second.sortText := by
  obtain ⟨found, hfound, hcount⟩ := exists_complete? 100001
  let range : Range := ⟨Document.positionOf mainText found.insertOffset, ⟨1, 2⟩⟩
  let answer : Items := ⟨false, itemsFrom found.place range 0 found.candidates⟩
  have hanswer : (mainSession.completion (methodTree 100001) mainUri ⟨1, 2⟩ .explicit).1 =
      some answer :=
    (completion_fst document?_mainSession _ _ _).trans (congrArg (Option.map _) hfound)
  have hranks : answer.items.map Item.sortText =
      (List.range' 0 found.candidates.length).map rank :=
    (map_itemsFrom found.place range 0 found.candidates).2
  have hitem : ∀ index < 100001, ∃ item,
      answer.items[index]? = some item ∧ item.sortText = rank index := by
    intro index hindex
    have hrank := congrArg (fun texts => texts[index]?) hranks
    simp only [List.getElem?_map] at hrank
    rw [List.getElem?_range' (Nat.lt_of_lt_of_le hindex hcount)] at hrank
    simpa using Option.map_eq_some_iff.mp hrank
  obtain ⟨first, hfirst, hsort⟩ := hitem 99999 (by decide)
  obtain ⟨second, hsecond, hnext⟩ := hitem 100000 (by decide)
  refine ⟨answer, first, second, hanswer, hfirst, hsort.trans rfl, hsecond, hnext.trans rfl, ?_⟩
  rw [hsort, hnext]
  decide

end LuaAssist.Session

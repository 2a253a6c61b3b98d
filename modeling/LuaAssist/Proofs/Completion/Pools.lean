import LuaAssist.Completion
import Mathlib.Data.List.Induction
import Mathlib.Data.List.Nodup

/-!
# What pools offer together

Pools are merged by walking through their candidates, those of the higher tiers first, and taking
each text where it comes first. So a text is offered once, by a pool of the highest tier that has
it.
-/

namespace LuaAssist

/-! ## Seen texts -/

namespace TextSet

/-- The set of a text has that text. -/
theorem contains_single (added text : Text) :
    (single added).contains text = decide (text = added) := by
  induction added generalizing text with
  | nil => cases text <;> simp [single, contains]
  | cons c rest ih =>
    cases text with
    | nil => simp [single, contains]
    | cons d more =>
      by_cases heq : d = c <;> simp [single, contains, heq, ih]

/-- A set with one more text has that text and those that it had. -/
theorem contains_insert (set : TextSet) (added text : Text) :
    (set.insert added).contains text = (decide (text = added) || set.contains text) := by
  induction set generalizing added text with
  | empty => simp [insert, contains, contains_single]
  | stop others ih =>
    cases added with
    | nil => cases text <;> simp [insert, contains]
    | cons c rest => rw [insert, contains, ih, contains, Bool.or_left_comm]
  | branch first below others hbelow hothers =>
    cases added with
    | nil => cases text <;> simp [insert, contains, hothers]
    | cons c rest =>
      cases text with
      | nil => by_cases hc : c = first <;> simp [insert, contains, hothers, hc]
      | cons d more =>
        by_cases hc : c = first
        · by_cases hd : d = first <;> simp [insert, contains, hbelow, hc, hd]
        · by_cases hd : d = first <;> simp [insert, contains, hothers, hc, hd, Ne.symm hc]

end TextSet

namespace Pool

/-! ## First appearances -/

/-- Adds a candidate unless its text is already offered. -/
def offer (offered : List Candidate) (candidate : Candidate) : List Candidate :=
  if offered.any fun other => other.text = candidate.text then offered
  else offered ++ [candidate]

/-- A text that is offered is not taken again. -/
theorem offer_of_mem {offered : List Candidate} {candidate : Candidate}
    (hknown : candidate.text ∈ offered.map Candidate.text) : offer offered candidate = offered := by
  rw [offer, if_pos]
  simpa using hknown

/-- A text that is not offered yet is taken. -/
theorem offer_of_not_mem {offered : List Candidate} {candidate : Candidate}
    (hnew : candidate.text ∉ offered.map Candidate.text) :
    offer offered candidate = offered ++ [candidate] := by
  rw [offer, if_neg]
  simpa using hnew

/-- A candidate is taken where its text appears for the first time. -/
theorem mem_foldl_offer {candidates offered : List Candidate} {candidate : Candidate} :
    candidate ∈ candidates.foldl offer offered ↔ candidate ∈ offered ∨
      ∃ front behind, candidates = front ++ candidate :: behind ∧
        candidate.text ∉ (offered ++ front).map Candidate.text := by
  induction candidates generalizing offered with
  | nil => simp
  | cons first rest ih =>
    rw [List.foldl_cons, ih]
    by_cases hknown : first.text ∈ offered.map Candidate.text
    · -- The first candidate is passed over, and so it may stand in front of any other.
      rw [offer_of_mem hknown]
      refine or_congr_right ⟨?_, ?_⟩
      · rintro ⟨front, behind, rfl, hnew⟩
        refine ⟨first :: front, behind, rfl, ?_⟩
        rintro hmem
        rw [List.map_append, List.map_cons, List.mem_append, List.mem_cons] at hmem
        rw [List.map_append, List.mem_append] at hnew
        rcases hmem with hmem | heq | hmem
        · exact hnew (Or.inl hmem)
        · exact hnew (Or.inl (heq ▸ hknown))
        · exact hnew (Or.inr hmem)
      · rintro ⟨_ | ⟨head, front⟩, behind, hsplit, hnew⟩
        · cases hsplit
          exact absurd (by simpa using hknown) hnew
        · cases hsplit
          refine ⟨front, behind, rfl, fun hmem => hnew ?_⟩
          rw [List.map_append, List.mem_append] at hmem ⊢
          exact hmem.imp_right (List.mem_cons_of_mem _)
    · rw [offer_of_not_mem hknown, List.mem_append, List.mem_singleton, or_assoc]
      refine or_congr_right ⟨?_, ?_⟩
      · rintro (rfl | ⟨front, behind, rfl, hnew⟩)
        · exact ⟨[], rest, rfl, by simpa using hknown⟩
        · exact ⟨first :: front, behind, rfl, by simpa using hnew⟩
      · rintro ⟨_ | ⟨head, front⟩, behind, hsplit, hnew⟩
        · cases hsplit
          exact Or.inl rfl
        · cases hsplit
          exact Or.inr ⟨front, behind, rfl, by simpa using hnew⟩

/-- The texts that are taken are all there are. -/
theorem mem_texts_foldl_offer {candidates offered : List Candidate} {text : Text} :
    text ∈ (candidates.foldl offer offered).map Candidate.text ↔
      text ∈ offered.map Candidate.text ∨ text ∈ candidates.map Candidate.text := by
  induction candidates generalizing offered with
  | nil => simp
  | cons first rest ih =>
    rw [List.foldl_cons, ih, List.map_cons, List.mem_cons]
    by_cases hknown : first.text ∈ offered.map Candidate.text
    · rw [offer_of_mem hknown]
      constructor
      · exact Or.imp_right Or.inr
      · rintro (hmem | rfl | hmem)
        · exact Or.inl hmem
        · exact Or.inl hknown
        · exact Or.inr hmem
    · rw [offer_of_not_mem hknown, List.map_append, List.mem_append, List.map_singleton,
        List.mem_singleton, or_assoc]

/-- A text is taken once. -/
theorem nodup_foldl_offer {candidates offered : List Candidate}
    (hoffered : (offered.map Candidate.text).Nodup) :
    ((candidates.foldl offer offered).map Candidate.text).Nodup := by
  induction candidates generalizing offered with
  | nil => exact hoffered
  | cons first rest ih =>
    refine ih ?_
    by_cases hknown : first.text ∈ offered.map Candidate.text
    · rwa [offer_of_mem hknown]
    · rw [offer_of_not_mem hknown, List.map_append, List.map_singleton]
      exact List.Nodup.append hoffered (List.nodup_singleton _)
        (List.disjoint_singleton.mpr hknown)

/-- What is taken keeps its order. -/
theorem sublist_foldl_offer (candidates offered : List Candidate) :
    (candidates.foldl offer offered).Sublist (offered ++ candidates) := by
  induction candidates generalizing offered with
  | nil => simp
  | cons first rest ih =>
    refine (ih (offer offered first)).trans ?_
    by_cases hknown : first.text ∈ offered.map Candidate.text
    · rw [offer_of_mem hknown]
      exact List.Sublist.append_left (List.sublist_cons_self first rest) offered
    · rw [offer_of_not_mem hknown, List.append_assoc]
      exact List.Sublist.refl _

/-- Candidates with different texts are all taken. -/
theorem foldl_offer_of_nodup {candidates : List Candidate}
    (hnodup : (candidates.map Candidate.text).Nodup) : candidates.foldl offer [] = candidates := by
  induction candidates using List.reverseRecOn with
  | nil => rfl
  | append_singleton candidates last ih =>
    rw [List.map_append, List.map_singleton] at hnodup
    have hnew : last.text ∉ candidates.map Candidate.text := fun hmem =>
      List.disjoint_of_nodup_append hnodup hmem (List.mem_singleton_self _)
    rw [List.foldl_append, ih hnodup.of_append_left, List.foldl_cons, List.foldl_nil,
      offer_of_not_mem hnew]

/-- What is offered already stays in front. -/
theorem exists_foldl_offer (candidates offered : List Candidate) :
    ∃ others, candidates.foldl offer offered = offered ++ others ∧ others.Sublist candidates := by
  induction candidates generalizing offered with
  | nil => exact ⟨[], by simp, List.Sublist.refl _⟩
  | cons first rest ih =>
    obtain ⟨others, hothers, hsublist⟩ := ih (offer offered first)
    by_cases hknown : first.text ∈ offered.map Candidate.text
    · rw [offer_of_mem hknown] at hothers
      exact ⟨others, by rwa [List.foldl_cons, offer_of_mem hknown], hsublist.cons first⟩
    · rw [offer_of_not_mem hknown, List.append_assoc] at hothers
      exact ⟨first :: others, by rwa [List.foldl_cons, offer_of_not_mem hknown],
        hsublist.cons_cons first⟩

/-- The candidates that come up first are those that are offered one by one, if the texts seen
are those offered. -/
theorem foldl_offer_eq_append_unseen (candidates : List Candidate) {seen : TextSet}
    {offered : List Candidate}
    (hseen : ∀ text, seen.contains text = true ↔ text ∈ offered.map Candidate.text) :
    candidates.foldl offer offered = offered ++ unseen seen candidates := by
  induction candidates generalizing seen offered with
  | nil => rw [List.foldl_nil, unseen, List.append_nil]
  | cons first rest ih =>
    by_cases hknown : first.text ∈ offered.map Candidate.text
    · rw [List.foldl_cons, offer_of_mem hknown, unseen, if_pos ((hseen _).mpr hknown), ih hseen]
    · have hnext : ∀ text, (seen.insert first.text).contains text = true ↔
          text ∈ (offered ++ [first]).map Candidate.text := fun text => by
        rw [TextSet.contains_insert, Bool.or_eq_true, decide_eq_true_eq, hseen, List.map_append,
          List.mem_append, List.map_singleton, List.mem_singleton, or_comm]
      rw [List.foldl_cons, offer_of_not_mem hknown, unseen, if_neg (mt (hseen _).mp hknown),
        ih hnext, List.append_assoc, List.singleton_append]

/-- Merged pools offer their candidates one by one. -/
theorem merge_eq_foldl_offer (pools : List Pool) :
    merge pools = ((byTier pools).flatMap candidates).foldl offer [] := by
  have hseen : ∀ text, TextSet.empty.contains text = true ↔
      text ∈ ([] : List Candidate).map Candidate.text := by simp [TextSet.contains]
  rw [foldl_offer_eq_append_unseen _ hseen, merge, List.nil_append]

/-! ## Tiers -/

/-- Pools are compared by tier, and the comparison is transitive. -/
theorem trans_tierLe (first second third : Pool) (hfront : decide (second.tier ≤ first.tier) = true)
    (hback : decide (third.tier ≤ second.tier) = true) :
    decide (third.tier ≤ first.tier) = true := by
  simp only [decide_eq_true_eq] at *
  omega

/-- Of two pools one stands in front of the other. -/
theorem total_tierLe (first second : Pool) :
    (decide (second.tier ≤ first.tier) || decide (first.tier ≤ second.tier)) = true := by
  simp only [Bool.or_eq_true, decide_eq_true_eq]
  omega

/-- Pools that stand by tier. -/
def Tiered (pools : List Pool) : Prop := pools.Pairwise fun a b => b.tier ≤ a.tier

/-- Ordered pools have falling tiers. -/
theorem tiered_byTier (pools : List Pool) : Tiered (byTier pools) := by
  have hsorted := List.pairwise_mergeSort trans_tierLe total_tierLe pools
  simpa [Tiered, byTier] using hsorted

/-- The candidates of pools by tier stand by tier. -/
theorem pairwise_byTier (pools : List Pool) :
    ((byTier pools).flatMap candidates).Pairwise fun a b => b.tier ≤ a.tier := by
  rw [List.pairwise_flatMap]
  constructor
  · intro pool _
    exact List.pairwise_map.mpr (List.pairwise_of_forall fun _ _ => Nat.le_refl _)
  · refine (tiered_byTier pools).imp fun hle a ha b hb => ?_
    obtain ⟨_, _, rfl⟩ := List.mem_map.mp ha
    obtain ⟨_, _, rfl⟩ := List.mem_map.mp hb
    exact hle

variable {pools : List Pool} {candidate : Candidate}

/-- The pools by tier have the candidates of the pools. -/
theorem mem_byTier_candidates :
    candidate ∈ (byTier pools).flatMap candidates ↔
      ∃ pool ∈ pools, candidate.text ∈ pool.texts ∧ candidate.category = pool.category ∧
        candidate.tier = pool.tier := by
  obtain ⟨text, category, tier⟩ := candidate
  simp only [List.mem_flatMap, byTier, List.mem_mergeSort, candidates, List.mem_map,
    Candidate.mk.injEq]
  constructor
  · rintro ⟨pool, hpool, _, htext, rfl, rfl, rfl⟩
    exact ⟨pool, hpool, htext, rfl, rfl⟩
  · rintro ⟨pool, hpool, htext, rfl, rfl⟩
    exact ⟨pool, hpool, text, htext, rfl, rfl, rfl⟩

/-- A merged candidate comes from a pool, and no pool of a higher tier has its text. -/
theorem exists_pool_of_mem_merge (hmem : candidate ∈ merge pools) :
    (∃ pool ∈ pools, candidate.text ∈ pool.texts ∧ candidate.category = pool.category ∧
        candidate.tier = pool.tier) ∧
      ∀ pool ∈ pools, candidate.text ∈ pool.texts → pool.tier ≤ candidate.tier := by
  rw [merge_eq_foldl_offer] at hmem
  obtain ⟨front, behind, hsplit, hnew⟩ := (mem_foldl_offer.mp hmem).resolve_left List.not_mem_nil
  constructor
  · exact mem_byTier_candidates.mp (hsplit ▸ List.mem_append_right _ List.mem_cons_self)
  · intro pool hpool htext
    have hother : ⟨candidate.text, pool.category, pool.tier⟩ ∈ (byTier pools).flatMap candidates :=
      mem_byTier_candidates.mpr ⟨pool, hpool, htext, rfl, rfl⟩
    have hsorted := pairwise_byTier pools
    rw [hsplit] at hother hsorted
    rcases List.mem_append.mp hother with hfront | hmem
    · exact absurd (List.mem_map.mpr ⟨_, hfront, rfl⟩) (by simpa using hnew)
    · rcases List.mem_cons.mp hmem with heq | hbehind
      · exact Nat.le_of_eq (congrArg Candidate.tier heq)
      · exact (List.pairwise_cons.mp (List.pairwise_append.mp hsorted).2.1).1 _ hbehind

/-- The merged texts are those of the pools. -/
theorem mem_texts_merge {text : Text} :
    text ∈ (merge pools).map Candidate.text ↔ ∃ pool ∈ pools, text ∈ pool.texts := by
  rw [merge_eq_foldl_offer, mem_texts_foldl_offer, List.map_nil, List.mem_map]
  constructor
  · rintro (hnone | ⟨candidate, hmem, rfl⟩)
    · cases hnone
    · obtain ⟨pool, hpool, htext, _⟩ := mem_byTier_candidates.mp hmem
      exact ⟨pool, hpool, htext⟩
  · rintro ⟨pool, hpool, htext⟩
    exact Or.inr ⟨⟨text, pool.category, pool.tier⟩,
      mem_byTier_candidates.mpr ⟨pool, hpool, htext, rfl, rfl⟩, rfl⟩

/-- A text is offered once. -/
theorem nodup_merge (pools : List Pool) : ((merge pools).map Candidate.text).Nodup := by
  rw [merge_eq_foldl_offer]
  exact nodup_foldl_offer List.nodup_nil

/-- Higher tiers come first. -/
theorem pairwise_merge (pools : List Pool) :
    (merge pools).Pairwise fun a b => b.tier ≤ a.tier := by
  rw [merge_eq_foldl_offer]
  exact (pairwise_byTier pools).sublist (sublist_foldl_offer _ [])

/-- A pool of a higher tier than all others comes first, with all its texts. -/
theorem exists_merge_cons {top : Pool} (hnodup : top.texts.Nodup)
    (hlower : ∀ pool ∈ pools, pool.tier < top.tier) :
    ∃ others, merge (top :: pools) = top.candidates ++ others ∧
      ∀ other ∈ others, other.tier < top.tier := by
  have htop : byTier (top :: pools) = top :: byTier pools := by
    obtain ⟨front, behind, hmerged, hrest, hfront⟩ :=
      List.mergeSort_cons trans_tierLe total_tierLe top pools
    have hnil : front = [] := by
      rw [List.eq_nil_iff_forall_not_mem]
      intro pool hpool
      have hmem : pool ∈ pools := List.mem_mergeSort.mp (hrest ▸ List.mem_append_left _ hpool)
      have hhigher := hfront pool hpool
      simp only [Bool.not_eq_true', decide_eq_false_iff_not] at hhigher
      exact hhigher (Nat.le_of_lt (hlower pool hmem))
    rw [hnil, List.nil_append] at hmerged hrest
    rw [byTier, byTier, hmerged, hrest]
  have htexts : (top.candidates.map Candidate.text).Nodup := by
    simpa [candidates, Function.comp_def] using hnodup
  obtain ⟨others, hothers, hsublist⟩ :=
    exists_foldl_offer ((byTier pools).flatMap candidates) top.candidates
  refine ⟨others, ?_, fun other hother => ?_⟩
  · rw [merge_eq_foldl_offer, htop, List.flatMap_cons, List.foldl_append,
      foldl_offer_of_nodup htexts, hothers]
  · obtain ⟨pool, hpool, -, -, htier⟩ := mem_byTier_candidates.mp (hsublist.subset hother)
    exact htier ▸ hlower pool hpool

end Pool

end LuaAssist

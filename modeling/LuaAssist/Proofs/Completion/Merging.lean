import LuaAssist.Proofs.Completion.Pools

/-!
# How pools are merged

The sort by tier keeps the pools of a tier in their order, so the pools of a tier, and no other
relation between pools, decide where in the tier a text stands and what it is offered as.
-/

namespace LuaAssist.Pool

variable {pools others : List Pool} {candidate : Candidate} {tier : Nat}

/-! ## Pools of one tier -/

/-- The pools of a tier, in their order. -/
def ofTier (tier : Nat) (pools : List Pool) : List Pool := pools.filter fun pool => pool.tier = tier

/-- The pools of a tier are those that have it. -/
theorem mem_ofTier {pool : Pool} : pool ∈ ofTier tier pools ↔ pool ∈ pools ∧ pool.tier = tier := by
  simp [ofTier]

/-- Pools of a tier are taken from both parts. -/
theorem ofTier_append (tier : Nat) (front behind : List Pool) :
    ofTier tier (front ++ behind) = ofTier tier front ++ ofTier tier behind :=
  List.filter_append front behind

/-- Ordering by tiers keeps the pools. -/
theorem mem_byTier {pool : Pool} : pool ∈ byTier pools ↔ pool ∈ pools := List.mem_mergeSort

/-- The sort keeps the pools of a tier in their order. -/
theorem ofTier_byTier (tier : Nat) (pools : List Pool) :
    ofTier tier (byTier pools) = ofTier tier pools := by
  have hlevel : (ofTier tier pools).Pairwise fun a b => decide (b.tier ≤ a.tier) = true := by
    refine List.pairwise_of_forall_mem_list fun a ha b hb => ?_
    rw [(mem_ofTier.mp ha).2, (mem_ofTier.mp hb).2]
    exact decide_eq_true (Nat.le_refl tier)
  have hsub : (ofTier tier pools).Sublist (ofTier tier (byTier pools)) := by
    have hkept : (ofTier tier pools).Sublist (byTier pools) :=
      List.sublist_mergeSort trans_tierLe total_tierLe hlevel List.filter_sublist
    have hagain := hkept.filter fun pool => decide (pool.tier = tier)
    simpa [ofTier] using hagain
  have hperm : (ofTier tier (byTier pools)).Perm (ofTier tier pools) :=
    (List.mergeSort_perm pools _).filter _
  exact (hsub.eq_of_length hperm.length_eq.symm).symm

/-- The pools of each tier tell which pools there are. -/
theorem mem_iff_of_ofTier (htiers : ∀ tier, ofTier tier pools = ofTier tier others) (pool : Pool) :
    pool ∈ pools ↔ pool ∈ others := by
  have hlevel : pool ∈ ofTier pool.tier pools ↔ pool ∈ ofTier pool.tier others := by rw [htiers]
  simpa [mem_ofTier] using hlevel

/-- Pools that stand by tier are told by the pools of each tier. -/
theorem Tiered.eq_of_ofTier (hpools : Tiered pools) (hothers : Tiered others)
    (htiers : ∀ tier, ofTier tier pools = ofTier tier others) : pools = others := by
  have hmem := mem_iff_of_ofTier htiers
  induction pools generalizing others with
  | nil =>
    rw [eq_comm, List.eq_nil_iff_forall_not_mem]
    exact fun pool hin => List.not_mem_nil ((hmem pool).mpr hin)
  | cons first pools ih =>
    cases others with
    | nil => exact absurd ((hmem first).mp List.mem_cons_self) List.not_mem_nil
    | cons other others =>
      obtain ⟨hfirst, htail⟩ := List.pairwise_cons.mp hpools
      obtain ⟨hother, hrest⟩ := List.pairwise_cons.mp hothers
      -- Each of the two comes first in its list, so neither has a lower tier than the other.
      have hle : first.tier ≤ other.tier := by
        rcases List.mem_cons.mp ((hmem first).mp List.mem_cons_self) with rfl | hin
        · exact Nat.le_refl _
        · exact hother first hin
      have hge : other.tier ≤ first.tier := by
        rcases List.mem_cons.mp ((hmem other).mpr List.mem_cons_self) with rfl | hin
        · exact Nat.le_refl _
        · exact hfirst other hin
      have hsame : first = other := by
        have hlevel := htiers first.tier
        simp only [ofTier, decide_true, List.filter_cons_of_pos, Nat.le_antisymm hge hle,
          List.cons.injEq] at hlevel
        exact hlevel.1
      subst hsame
      have htails (tier : Nat) : ofTier tier pools = ofTier tier others := by
        have hlevel := htiers tier
        by_cases hfirst : first.tier = tier <;> simpa [ofTier, hfirst] using hlevel
      rw [ih htail hrest htails (mem_iff_of_ofTier htails)]

/-- The sort depends on the order of the pools of each tier only. -/
theorem byTier_congr (htiers : ∀ tier, ofTier tier pools = ofTier tier others) :
    byTier pools = byTier others :=
  (tiered_byTier pools).eq_of_ofTier (tiered_byTier others) fun tier => by
    rw [ofTier_byTier, ofTier_byTier, htiers]

/-- Pools that stand by tier are those above a tier, those of the tier, and those below it. -/
theorem Tiered.exists_eq_append (hpools : Tiered pools) (tier : Nat) :
    ∃ higher lower, pools = higher ++ (ofTier tier pools ++ lower) ∧
      (∀ pool ∈ higher, tier < pool.tier) ∧ ∀ pool ∈ lower, pool.tier < tier := by
  induction pools with
  | nil => exact ⟨[], [], rfl, List.forall_mem_nil _, List.forall_mem_nil _⟩
  | cons first pools ih =>
    obtain ⟨hfirst, htail⟩ := List.pairwise_cons.mp hpools
    obtain ⟨higher, lower, hsplit, hhigher, hlower⟩ := ih htail
    rcases Nat.lt_trichotomy first.tier tier with hlt | heq | hgt
    · have hall : ∀ pool ∈ first :: pools, pool.tier < tier :=
        List.forall_mem_cons.mpr ⟨hlt, fun pool hpool => Nat.lt_of_le_of_lt (hfirst pool hpool) hlt⟩
      have hnone : ofTier tier (first :: pools) = [] := by
        rw [List.eq_nil_iff_forall_not_mem]
        intro pool hpool
        obtain ⟨hmem, htier⟩ := mem_ofTier.mp hpool
        exact Nat.ne_of_lt (hall pool hmem) htier
      exact ⟨[], first :: pools, by rw [hnone]; rfl, List.forall_mem_nil _, hall⟩
    · -- A pool of the tier comes first, so none of a higher tier follows.
      have hnone : higher = [] := by
        rw [List.eq_nil_iff_forall_not_mem]
        intro pool hpool
        have hle := hfirst pool (hsplit ▸ List.mem_append_left _ hpool)
        exact Nat.not_lt_of_le (heq ▸ hle) (hhigher pool hpool)
      rw [hnone, List.nil_append] at hsplit
      refine ⟨[], lower, ?_, List.forall_mem_nil _, hlower⟩
      have hlevel : ofTier tier (first :: pools) = first :: ofTier tier pools :=
        List.filter_cons_of_pos (by simpa using heq)
      rw [hlevel, List.nil_append, List.cons_append, ← hsplit]
    · have hlevel : ofTier tier (first :: pools) = ofTier tier pools :=
        List.filter_cons_of_neg (by simpa using Nat.ne_of_gt hgt)
      exact ⟨first :: higher, lower, by rw [hlevel, List.cons_append, ← hsplit],
        List.forall_mem_cons.mpr ⟨hgt, hhigher⟩, hlower⟩

/-- The sort puts the pools of a tier between those of the higher and those of the lower tiers. -/
theorem exists_byTier_eq (tier : Nat) (pools : List Pool) :
    ∃ higher lower, byTier pools = higher ++ (ofTier tier pools ++ lower) ∧
      (∀ pool ∈ higher, pool ∈ pools ∧ tier < pool.tier) ∧ ∀ pool ∈ lower, pool.tier < tier := by
  obtain ⟨higher, lower, hsplit, hhigher, hlower⟩ := (tiered_byTier pools).exists_eq_append tier
  rw [ofTier_byTier] at hsplit
  refine ⟨higher, lower, hsplit, fun pool hpool => ⟨?_, hhigher pool hpool⟩, hlower⟩
  exact mem_byTier.mp (hsplit ▸ List.mem_append_left _ hpool)

/-! ## Where a text is taken -/

/-- The texts of the pools of a tier. -/
def textsOfTier (tier : Nat) (pools : List Pool) : List Text := (ofTier tier pools).flatMap texts

/-- The candidates of pools have the texts of the pools. -/
theorem map_text_candidates (pools : List Pool) :
    (pools.flatMap candidates).map Candidate.text = pools.flatMap texts := by
  rw [List.map_flatMap]
  exact congrArg (List.flatMap · pools) (funext fun pool => by simp [candidates, Function.comp_def])

/-- Candidates are taken in the order in which their texts appear first. -/
theorem pairwise_foldl_offer (candidates : List Candidate) :
    (candidates.foldl offer []).Pairwise fun a b =>
      (candidates.map Candidate.text).idxOf a.text <
        (candidates.map Candidate.text).idxOf b.text := by
  induction candidates using List.reverseRecOn with
  | nil => exact List.Pairwise.nil
  | append_singleton front last ih =>
    have hmem : ∀ a ∈ front.foldl offer [], a.text ∈ front.map Candidate.text := fun a ha =>
      List.mem_map_of_mem ((sublist_foldl_offer front []).subset ha)
    have hfront : (front.foldl offer []).Pairwise fun a b =>
        ((front ++ [last]).map Candidate.text).idxOf a.text <
          ((front ++ [last]).map Candidate.text).idxOf b.text := by
      refine ih.imp_of_mem fun ha hb hlt => ?_
      rwa [List.map_append, List.idxOf_append_of_mem (hmem _ ha),
        List.idxOf_append_of_mem (hmem _ hb)]
    rw [List.foldl_append, List.foldl_cons, List.foldl_nil]
    by_cases hknown : last.text ∈ (front.foldl offer []).map Candidate.text
    · rwa [offer_of_mem hknown]
    · rw [offer_of_not_mem hknown]
      refine List.pairwise_append.mpr ⟨hfront, List.pairwise_singleton _ _, fun a ha b hb => ?_⟩
      rw [List.mem_singleton.mp hb]
      have hnew : last.text ∉ front.map Candidate.text := fun hin =>
        hknown (mem_texts_foldl_offer.mpr (Or.inr hin))
      rw [List.map_append, List.idxOf_append_of_mem (hmem a ha), List.idxOf_append_of_notMem hnew]
      exact Nat.lt_add_right _ (List.idxOf_lt_length_of_mem (hmem a ha))

/-- A text is taken from the first pool of its tier that has it, unless a higher tier has it. -/
theorem mem_merge_of_first {before after : List Pool} {pool : Pool} {text : Text}
    (hpools : pools = before ++ pool :: after) (htext : text ∈ pool.texts)
    (hhighest : ∀ other ∈ pools, text ∈ other.texts → other.tier ≤ pool.tier)
    (hfirst : ∀ other ∈ before, text ∈ other.texts → other.tier ≠ pool.tier) :
    ⟨text, pool.category, pool.tier⟩ ∈ merge pools := by
  obtain ⟨higher, lower, hsplit, hhigher, -⟩ := exists_byTier_eq pool.tier pools
  obtain ⟨front, behind, htexts, hnew⟩ := List.eq_append_cons_of_mem htext
  have hlevel : ofTier pool.tier pools =
      ofTier pool.tier before ++ pool :: ofTier pool.tier after := by
    rw [hpools, ofTier_append]
    exact congrArg (ofTier pool.tier before ++ ·) (List.filter_cons_of_pos (by simp))
  have hcandidates : (byTier pools).flatMap candidates =
      ((higher ++ ofTier pool.tier before).flatMap candidates ++
        front.map (⟨·, pool.category, pool.tier⟩)) ++ ⟨text, pool.category, pool.tier⟩ ::
          (behind.map (⟨·, pool.category, pool.tier⟩) ++
            (ofTier pool.tier after ++ lower).flatMap candidates) := by
    have hpool : pool.candidates = front.map (⟨·, pool.category, pool.tier⟩) ++
        ⟨text, pool.category, pool.tier⟩ :: behind.map (⟨·, pool.category, pool.tier⟩) := by
      rw [candidates, htexts, List.map_append, List.map_cons]
    simp [hsplit, hlevel, hpool]
  rw [merge_eq_foldl_offer]
  refine mem_foldl_offer.mpr (Or.inr ⟨_, _, hcandidates, ?_⟩)
  -- Neither a higher tier nor an earlier pool of the tier has the text, nor an earlier place.
  rw [List.nil_append, List.map_append, map_text_candidates, List.map_map, List.mem_append,
    List.mem_flatMap]
  rintro (⟨other, hother, hhas⟩ | hfront)
  · rcases List.mem_append.mp hother with hother | hother
    · obtain ⟨hmem, hgt⟩ := hhigher other hother
      exact Nat.not_lt_of_le (hhighest other hmem hhas) hgt
    · obtain ⟨hmem, htier⟩ := mem_ofTier.mp hother
      exact hfirst other hmem hhas htier
  · exact hnew (by simpa using hfront)

/-- A candidate is what the first pool of the highest tier that has its text says. -/
theorem exists_first_of_mem_merge (hmem : candidate ∈ merge pools) :
    ∃ before pool after, pools = before ++ pool :: after ∧ candidate.text ∈ pool.texts ∧
      candidate.category = pool.category ∧ candidate.tier = pool.tier ∧
      (∀ other ∈ before, candidate.text ∈ other.texts → other.tier < pool.tier) ∧
      ∀ other ∈ after, candidate.text ∈ other.texts → other.tier ≤ pool.tier := by
  obtain ⟨⟨top, htop, hhas, -, htier⟩, hhighest⟩ := exists_pool_of_mem_merge hmem
  let asked : Pool → Bool := fun pool => pool.tier = candidate.tier ∧ candidate.text ∈ pool.texts
  have hasked : ∃ pool ∈ pools, asked pool = true := ⟨top, htop, by simp [asked, hhas, htier]⟩
  obtain ⟨pool, hfound⟩ := Option.isSome_iff_exists.mp (List.find?_isSome.mpr hasked)
  obtain ⟨hpool, before, after, hpools, hbefore⟩ := List.find?_eq_some_iff_append.mp hfound
  obtain ⟨hlevel, htext⟩ : pool.tier = candidate.tier ∧ candidate.text ∈ pool.texts := by
    simpa [asked] using hpool
  rw [← hlevel] at hhighest
  have hfirst : ∀ other ∈ before, candidate.text ∈ other.texts → other.tier ≠ pool.tier :=
    fun other hother hin heq => by simpa [asked, heq, hlevel, hin] using hbefore other hother
  have htaken := mem_merge_of_first hpools htext hhighest hfirst
  have hsame : candidate = ⟨candidate.text, pool.category, pool.tier⟩ :=
    List.inj_on_of_nodup_map (nodup_merge pools) hmem htaken rfl
  refine ⟨before, pool, after, hpools, htext, congrArg Candidate.category hsame, hlevel.symm,
    fun other hother hin => ?_, fun other hother hin => hhighest other ?_ hin⟩
  · refine Nat.lt_of_le_of_ne (hhighest other ?_ hin) (hfirst other hother hin)
    exact hpools ▸ List.mem_append_left _ hother
  · exact hpools ▸ List.mem_append_right _ (List.mem_cons_of_mem _ hother)

/-- Within a tier candidates stand in the order in which its pools have their texts first. -/
theorem pairwise_merge_within (pools : List Pool) :
    (merge pools).Pairwise fun a b => a.tier = b.tier →
      (textsOfTier a.tier pools).idxOf a.text < (textsOfTier a.tier pools).idxOf b.text := by
  have hoffered := pairwise_foldl_offer ((byTier pools).flatMap candidates)
  rw [← merge_eq_foldl_offer] at hoffered
  refine hoffered.imp_of_mem ?_
  intro a b ha hb hlt htier
  obtain ⟨higher, lower, hsplit, hhigher, -⟩ := exists_byTier_eq a.tier pools
  have hplace (c : Candidate) (hc : c ∈ merge pools) (hlevel : c.tier = a.tier) :
      (((byTier pools).flatMap candidates).map Candidate.text).idxOf c.text =
        (higher.flatMap texts).length + (textsOfTier a.tier pools).idxOf c.text := by
    obtain ⟨⟨pool, hpool, hhas, -, hof⟩, hhighest⟩ := exists_pool_of_mem_merge hc
    have hnew : c.text ∉ higher.flatMap texts := by
      intro hin
      obtain ⟨other, hother, hin⟩ := List.mem_flatMap.mp hin
      obtain ⟨hmem, hgt⟩ := hhigher other hother
      exact Nat.not_lt_of_le (hhighest other hmem hin) (hlevel ▸ hgt)
    have hin : c.text ∈ textsOfTier a.tier pools :=
      List.mem_flatMap.mpr ⟨pool, mem_ofTier.mpr ⟨hpool, hof ▸ hlevel⟩, hhas⟩
    rw [map_text_candidates, hsplit, List.flatMap_append, List.flatMap_append,
      List.idxOf_append_of_notMem hnew]
    exact congrArg (_ + ·) (List.idxOf_append_of_mem hin)
  rw [hplace a ha rfl, hplace b hb htier.symm] at hlt
  exact Nat.lt_of_add_lt_add_left hlt

/-- Merged pools offer each of their texts once and nothing else. Each text is what the first of the
pools of the highest tier that has it says. The higher tiers come first, and within a tier the texts
stand in the order in which its pools have them first. The pools of each tier in their order are all
that counts: if they are put in another order that keeps these, they are merged into the same
candidates. -/
theorem merge_unites_pools (pools : List Pool) :
    ((merge pools).map Candidate.text).Nodup ∧
      (∀ text, text ∈ (merge pools).map Candidate.text ↔ ∃ pool ∈ pools, text ∈ pool.texts) ∧
      (∀ candidate ∈ merge pools, ∃ before pool after, pools = before ++ pool :: after ∧
        candidate.text ∈ pool.texts ∧ candidate.category = pool.category ∧
        candidate.tier = pool.tier ∧
        (∀ other ∈ before, candidate.text ∈ other.texts → other.tier < pool.tier) ∧
        ∀ other ∈ after, candidate.text ∈ other.texts → other.tier ≤ pool.tier) ∧
      ((merge pools).Pairwise fun a b => b.tier ≤ a.tier) ∧
      ((merge pools).Pairwise fun a b => a.tier = b.tier →
        (textsOfTier a.tier pools).idxOf a.text < (textsOfTier a.tier pools).idxOf b.text) ∧
      ∀ others, (∀ tier, ofTier tier others = ofTier tier pools) → merge others = merge pools := by
  refine ⟨nodup_merge pools, fun _ => mem_texts_merge, fun _ => exists_first_of_mem_merge,
    pairwise_merge pools, pairwise_merge_within pools, fun others htiers => ?_⟩
  rw [merge, merge, byTier_congr htiers]

/-- A pool of a lower tier. -/
def lowPool : Pool := ⟨.keyword, 1, [['s'], ['p'], ['b']]⟩

/-- A pool with a text that stands in it twice and in the lower tier too. -/
def namesPool : Pool := ⟨.variable, 2, [['b'], ['a'], ['b']]⟩

/-- A pool that shares a text with each of the other two. -/
def callsPool : Pool := ⟨.function, 2, [['p'], ['a']]⟩

/-- The pool of the lower tier may as well stand between those of the higher one, which offer every
text that they share with it. -/
theorem merge_unites_pools_repeated :
    (∀ tier, ofTier tier [namesPool, lowPool, callsPool] =
        ofTier tier [lowPool, namesPool, callsPool]) ∧
      merge [namesPool, lowPool, callsPool] = merge [lowPool, namesPool, callsPool] ∧
      ∃ before pool after, [lowPool, namesPool, callsPool] = before ++ pool :: after ∧
        ['p'] ∈ pool.texts ∧ .function = pool.category ∧ 2 = pool.tier ∧
        (∀ other ∈ before, ['p'] ∈ other.texts → other.tier < pool.tier) ∧
        ∀ other ∈ after, ['p'] ∈ other.texts → other.tier ≤ pool.tier := by
  obtain ⟨-, -, hfirst, -, -, hreordered⟩ := merge_unites_pools [lowPool, namesPool, callsPool]
  have htiers (tier : Nat) : ofTier tier [namesPool, lowPool, callsPool] =
      ofTier tier [lowPool, namesPool, callsPool] := by
    rcases eq_or_ne 1 tier with rfl | hother
    · rfl
    · simp [ofTier, List.filter_cons, lowPool, hother]
  have hsplit : [lowPool, namesPool, callsPool] = [lowPool, namesPool] ++ callsPool :: [] := rfl
  have hshared : ⟨['p'], .function, 2⟩ ∈ merge [lowPool, namesPool, callsPool] :=
    mem_merge_of_first hsplit (by decide) (by decide) (by decide)
  exact ⟨htiers, hreordered _ htiers, hfirst _ hshared⟩

end LuaAssist.Pool

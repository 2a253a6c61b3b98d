import LuaAssist.Reach

/-!
# A search along a chain

Where every place leads to the next one and the last leads nowhere, the search meets the places
one behind the other.
-/

namespace LuaAssist.Reach

variable {α κ σ : Type} [DecidableEq κ] {key : α → κ} {domain : List κ} {invariant : σ → Prop}
  {expand : α → σ → List α × σ} {place : Nat → α} {first last : Nat}

/-- Places in a chain: each of them leads to the next, and the last leads nowhere. They have
different keys in the domain. -/
structure IsChain (key : α → κ) (domain : List κ) (invariant : σ → Prop)
    (expand : α → σ → List α × σ) (place : Nat → α) (first last : Nat) : Prop where
  leads : ∀ number, first ≤ number → number ≤ last → ∀ state, invariant state →
    (expand (place number) state).1 = if number < last then [place (number + 1)] else []
  keeps : ∀ number state, invariant state → invariant (expand (place number) state).2
  mem_domain : ∀ number, first ≤ number → number ≤ last → key (place number) ∈ domain
  injective : Function.Injective fun number => key (place number)

/-- A single place that is in the domain and new is found. -/
theorem discover_singleton {visited : List κ} {found : α} (hdomain : key found ∈ domain)
    (hnew : key found ∉ visited) :
    discover key domain visited [found] = ([found], key found :: visited) := by
  rw [discover, if_pos (by simp [hdomain, hnew])]
  rfl

/-- From a place of a chain the search goes along the rest of the chain, if no place behind is
known. -/
theorem IsChain.visit (hchain : IsChain key domain invariant expand place first last)
    {number count : Nat} (hnumber : first ≤ number) (hlast : number + count = last)
    {visited : List κ}
    (hnew : ∀ other, number < other → other ≤ last → key (place other) ∉ visited)
    {state : σ} (hstate : invariant state) :
    (Reach.visit key domain expand [place number] visited state).1 =
      (List.range' number (count + 1)).map place := by
  have hleads := hchain.leads number hnumber (by omega) state hstate
  rw [Reach.visit]
  dsimp only
  induction count generalizing number visited state with
  | zero =>
    rw [if_neg (by omega)] at hleads
    rw [hleads, discover, List.nil_append, Reach.visit]
    rfl
  | succ count ih =>
    rw [if_pos (by omega)] at hleads
    have hfound : discover key domain visited [place (number + 1)] =
        ([place (number + 1)], key (place (number + 1)) :: visited) :=
      discover_singleton (hchain.mem_domain _ (by omega) (by omega))
        (hnew _ (Nat.lt_succ_self number) (by omega))
    have hbehind : ∀ other, number + 1 < other → other ≤ last →
        key (place other) ∉ key (place (number + 1)) :: visited := by
      intro other hother hle hmem
      rcases List.mem_cons.mp hmem with heq | hmem
      · exact absurd (hchain.injective heq) (by omega)
      · exact hnew other (by omega) hle hmem
    have hkept := hchain.keeps number state hstate
    have hnext := hchain.leads (number + 1) (by omega) (by omega) _ hkept
    rw [hleads, hfound, List.nil_append, List.range'_succ, List.map_cons, Reach.visit]
    exact congrArg (place number :: ·) (ih (by omega) (by omega) hbehind hkept hnext)

/-- A search from the first place of a chain answers with the chain. -/
theorem IsChain.breadthFirst (hchain : IsChain key domain invariant expand place first last)
    (hfirst : first ≤ last) {state : σ} (hstate : invariant state) :
    (Reach.breadthFirst key domain expand [place first] [] state).1 =
      (List.range' first (last + 1 - first)).map place := by
  have hcount : last + 1 - first = last - first + 1 := by omega
  have hfound := discover_singleton (hchain.mem_domain first (Nat.le_refl first) hfirst)
    (List.not_mem_nil : key (place first) ∉ [])
  rw [Reach.breadthFirst, hfound, hcount]
  refine hchain.visit (Nat.le_refl first) (by omega) (fun other hother _ hmem => ?_) hstate
  exact absurd (hchain.injective (List.mem_singleton.mp hmem)) (by omega)

end LuaAssist.Reach

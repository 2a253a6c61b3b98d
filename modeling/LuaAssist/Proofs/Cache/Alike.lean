import LuaAssist.Reach

/-!
# Computations that carry caches along

What a cache has read before should not show in a value that is computed with it. Here this is
said of computations over any state: in all states with an invariant they give the same value, and
they keep the invariant. Such computations can be put together, and a search that carries the
state from place to place is one if its step is.
-/

namespace LuaAssist

variable {α β σ : Type}

/-- In all states with an invariant a computation gives the same value, of which `post` holds, and
it keeps the invariant. -/
def AskAlike (invariant : σ → Prop) (post : α → Prop) (ask : σ → α × σ) : Prop :=
  ∀ s t, invariant s → invariant t →
    (ask s).1 = (ask t).1 ∧ post (ask s).1 ∧ invariant (ask s).2

namespace AskAlike

variable {invariant : σ → Prop} {post : α → Prop}

/-- A value that is there already. -/
theorem pure {a : α} (ha : post a) : AskAlike invariant post fun s => (a, s) :=
  fun _ _ hs _ => ⟨rfl, ha, hs⟩

/-- A value that the invariant determines. -/
theorem look {view : σ → α} (a : α) (ha : post a) (hview : ∀ s, invariant s → view s = a) :
    AskAlike invariant post fun s => (view s, s) := by
  intro s t hs ht
  refine ⟨(hview s hs).trans (hview t ht).symm, ?_, hs⟩
  show post (view s)
  rw [hview s hs]
  exact ha

/-- One computation after the other. -/
theorem bind {after : β → Prop} {ask : σ → α × σ} (hask : AskAlike invariant post ask)
    (next : α → σ → β × σ)
    (hnext : ∀ a, post a → AskAlike invariant after (next a)) :
    AskAlike invariant after fun s => next (ask s).1 (ask s).2 := by
  intro s t hs ht
  obtain ⟨hvalue, hpost, hs'⟩ := hask s t hs ht
  obtain ⟨_, _, ht'⟩ := hask t s ht hs
  obtain ⟨hnext, hafter⟩ := hnext _ hpost _ _ hs' ht'
  refine ⟨?_, hafter⟩
  show (next (ask s).1 (ask s).2).1 = (next (ask t).1 (ask t).2).1
  rw [← hvalue]
  exact hnext

/-- A value that is computed from another. -/
theorem map {ask : σ → α × σ} (hask : AskAlike invariant post ask) (f : α → β) :
    AskAlike invariant (fun _ => True) fun s => (f (ask s).1, (ask s).2) :=
  hask.bind (fun a s => (f a, s)) fun _ _ => pure trivial

end AskAlike

namespace Reach

variable {κ : Type} [DecidableEq κ] {key : α → κ} {domain : List κ}

/-- Only given places are discovered. -/
theorem mem_of_mem_discover {visited : List κ} {places : List α} {place : α}
    (hmem : place ∈ (discover key domain visited places).1) : place ∈ places := by
  induction places generalizing visited with
  | nil => exact hmem
  | cons first rest ih =>
    unfold discover at hmem
    split at hmem
    · rcases List.mem_cons.mp hmem with rfl | hmem
      · exact List.mem_cons_self
      · exact List.mem_cons_of_mem _ (ih hmem)
    · exact List.mem_cons_of_mem _ (ih hmem)

variable {invariant : σ → Prop} {post : α → Prop} {expand : α → σ → List α × σ}

/-- From a queue on a search takes the same way in all states with the invariant. -/
theorem askAlike_visit
    (hexpand : ∀ place, post place → AskAlike invariant (∀ next ∈ ·, post next) (expand place))
    {queue : List α} (hqueue : ∀ place ∈ queue, post place) (visited : List κ) :
    AskAlike invariant (∀ place ∈ ·, post place) (visit key domain expand queue visited) := by
  intro s t hs ht
  induction queue, visited, s using visit.induct key domain expand generalizing t with
  | case1 visited s =>
    rw [visit, visit]
    exact ⟨rfl, fun _ hmem => (nomatch hmem), hs⟩
  | case2 visited s place waiting _ _ _ _ _ ih =>
    -- What is found depends on the values of the steps alone, so the queues stay the same.
    have hplace := hexpand place (hqueue place List.mem_cons_self)
    obtain ⟨hvalue, hpost, hs'⟩ := hplace s t hs ht
    obtain ⟨_, _, ht'⟩ := hplace t s ht hs
    obtain ⟨horder, hplaces, hfinal⟩ := ih (fun next hmem => by
      rcases List.mem_append.mp hmem with hmem | hmem
      · exact hqueue next (List.mem_cons_of_mem _ hmem)
      · exact hpost next (mem_of_mem_discover hmem)) _ hs' ht'
    rw [visit, visit, ← hvalue]
    refine ⟨congrArg (place :: ·) horder, fun next hmem => ?_, hfinal⟩
    rcases List.mem_cons.mp hmem with rfl | hmem
    · exact hqueue next List.mem_cons_self
    · exact hplaces next hmem

/-- A search takes the same way in all states with the invariant. -/
theorem askAlike_breadthFirst
    (hexpand : ∀ place, post place → AskAlike invariant (∀ next ∈ ·, post next) (expand place))
    {roots : List α} (hroots : ∀ place ∈ roots, post place) (visited : List κ) :
    AskAlike invariant (∀ place ∈ ·, post place)
      (breadthFirst key domain expand roots visited) :=
  askAlike_visit hexpand (fun place hmem => hroots place (mem_of_mem_discover hmem)) _

end Reach

end LuaAssist

import LuaAssist.Reach
import Mathlib.Data.List.Nodup
import Mathlib.Logic.Function.Iterate

/-!
# The search in rounds

The search keeps to a domain, which makes it end whatever the step answers. Here it is told
as the plain loop over a queue that knows of no domain: a round takes the place at the front
of the queue and queues its new neighbours. Over a finite graph the loop runs dry, after one
round for each place of the answer, and its answer is that of the search.
-/

namespace LuaAssist.Reach

variable {α κ σ : Type} [DecidableEq κ] {key : α → κ} {domain : List κ}
  {expand : α → σ → List α × σ}

/-- The places that are new, each once, with the keys that are known after them. -/
def discoverNew (key : α → κ) (visited : List κ) : List α → List α × List κ
  | [] => ([], visited)
  | place :: rest =>
    if key place ∈ visited then discoverNew key visited rest
    else
      let (found, after) := discoverNew key (key place :: visited) rest
      (place :: found, after)

/-- A place whose key is known is passed over. -/
theorem discoverNew_of_mem {visited : List κ} {place : α} {rest : List α}
    (hknown : key place ∈ visited) :
    discoverNew key visited (place :: rest) = discoverNew key visited rest :=
  if_pos hknown

/-- A place whose key is new is taken, and from then on its key is known. -/
theorem discoverNew_of_not_mem {visited : List κ} {place : α} {rest : List α}
    (hnew : key place ∉ visited) :
    discoverNew key visited (place :: rest) =
      (place :: (discoverNew key (key place :: visited) rest).1,
        (discoverNew key (key place :: visited) rest).2) :=
  if_neg hnew

/-- Among places of the domain those that are new are discovered. -/
theorem discover_eq_discoverNew {visited : List κ} {places : List α}
    (hplaces : ∀ place ∈ places, key place ∈ domain) :
    discover key domain visited places = discoverNew key visited places := by
  induction places generalizing visited with
  | nil => rfl
  | cons place rest ih =>
    obtain ⟨hplace, hrest⟩ := List.forall_mem_cons.mp hplaces
    unfold discover
    by_cases hknown : key place ∈ visited
    · rw [if_neg (by simp [hknown]), discoverNew_of_mem hknown]
      exact ih hrest
    · rw [if_pos (by simp [hplace, hknown]), discoverNew_of_not_mem hknown, ih hrest]

/-- Behind some places, their keys are known too. -/
theorem mem_discoverNew_known {visited : List κ} {places : List α} {k : κ} :
    k ∈ (discoverNew key visited places).2 ↔ k ∈ visited ∨ k ∈ places.map key := by
  induction places generalizing visited with
  | nil => simp [discoverNew]
  | cons place rest ih =>
    by_cases hknown : key place ∈ visited
    · rw [discoverNew_of_mem hknown, ih, List.map_cons, List.mem_cons]
      constructor
      · exact Or.imp_right Or.inr
      · rintro (hk | rfl | hk)
        · exact Or.inl hk
        · exact Or.inl hknown
        · exact Or.inr hk
    · rw [discoverNew_of_not_mem hknown, ih, List.map_cons, List.mem_cons, List.mem_cons]
      tauto

/-- The new places have the keys that were not known. -/
theorem mem_discoverNew_found {visited : List κ} {places : List α} {k : κ} :
    k ∈ (discoverNew key visited places).1.map key ↔ k ∈ places.map key ∧ k ∉ visited := by
  induction places generalizing visited with
  | nil => simp [discoverNew]
  | cons place rest ih =>
    by_cases hknown : key place ∈ visited
    · rw [discoverNew_of_mem hknown, ih, List.map_cons, List.mem_cons]
      constructor
      · exact And.imp_left Or.inr
      · rintro ⟨rfl | hk, hnew⟩
        · exact absurd hknown hnew
        · exact ⟨hk, hnew⟩
    · simp only [discoverNew_of_not_mem hknown, List.map_cons, List.mem_cons, ih, not_or]
      constructor
      · rintro (rfl | ⟨hk, _, hnew⟩)
        · exact ⟨Or.inl rfl, hknown⟩
        · exact ⟨Or.inr hk, hnew⟩
      · rintro ⟨hk, hnew⟩
        by_cases hplace : k = key place
        · exact Or.inl hplace
        · exact Or.inr ⟨hk.resolve_left hplace, hplace, hnew⟩

/-- A new place is found once. -/
theorem nodup_discoverNew (visited : List κ) (places : List α) :
    ((discoverNew key visited places).1.map key).Nodup := by
  induction places generalizing visited with
  | nil => exact List.nodup_nil
  | cons place rest ih =>
    by_cases hknown : key place ∈ visited
    · rw [discoverNew_of_mem hknown]
      exact ih visited
    · rw [discoverNew_of_not_mem hknown, List.map_cons, List.nodup_cons]
      refine ⟨fun hagain => ?_, ih _⟩
      exact (mem_discoverNew_found.mp hagain).2 List.mem_cons_self

/-! ## Rounds -/

/-- A search under way. -/
structure Search (α κ σ : Type) where
  queue : List α
  /-- The keys that are not queued again. -/
  visited : List κ
  /-- The places that have left the queue. -/
  order : List α
  state : σ

namespace Search

/-- The roots that are not known from the start are queued. -/
def start (key : α → κ) (roots : List α) (visited : List κ) (state : σ) : Search α κ σ :=
  let found := discoverNew key visited roots
  ⟨found.1, found.2, [], state⟩

/-- The place at the front leaves the queue, and its new neighbours join it. -/
def round (key : α → κ) (expand : α → σ → List α × σ) (search : Search α κ σ) : Search α κ σ :=
  match search.queue with
  | [] => search
  | place :: waiting =>
    let (neighbours, state) := expand place search.state
    let found := discoverNew key search.visited neighbours
    ⟨waiting ++ found.1, found.2, search.order ++ [place], state⟩

/-- A round expands the first place that waits, and what it discovers waits behind the others. -/
theorem round_cons (place : α) (waiting : List α) (visited : List κ) (order : List α) (state : σ) :
    round key expand ⟨place :: waiting, visited, order, state⟩ =
      ⟨waiting ++ (discoverNew key visited (expand place state).1).1,
        (discoverNew key visited (expand place state).1).2, order ++ [place],
        (expand place state).2⟩ :=
  rfl

end Search

/-- In every state that the search meets, the step answers with the neighbours that the graph
has. -/
def Follows (invariant : σ → Prop) (key : α → κ) (edges : κ → List κ)
    (expand : α → σ → List α × σ) : Prop :=
  ∀ place state, invariant state →
    (expand place state).1.map key = edges (key place) ∧ invariant (expand place state).2

variable {invariant : σ → Prop} {edges : κ → List κ}

/-- Over a graph within the domain the search is the loop: as many rounds as there are places
in the answer empty the queue. -/
theorem iterate_round_eq_visit (hfollows : Follows invariant key edges expand)
    (hdomain : ∀ k ∈ domain, ∀ next ∈ edges k, next ∈ domain)
    {queue : List α} (hqueue : ∀ place ∈ queue, key place ∈ domain) (visited : List κ)
    {state : σ} (hstate : invariant state) (order : List α) :
    ∃ known, (Search.round key expand)^[(visit key domain expand queue visited state).1.length]
        ⟨queue, visited, order, state⟩ =
      ⟨[], known, order ++ (visit key domain expand queue visited state).1,
        (visit key domain expand queue visited state).2⟩ := by
  induction queue, visited, state using visit.induct key domain expand generalizing order with
  | case1 visited state =>
    rw [visit]
    exact ⟨visited, by simp⟩
  | case2 visited state place waiting neighbours found _ _ _ ih =>
    obtain ⟨hplace, hwaiting⟩ := List.forall_mem_cons.mp hqueue
    obtain ⟨hneighbours, hnext⟩ := hfollows place state hstate
    have hinside : ∀ next ∈ neighbours, key next ∈ domain := by
      intro next hmem
      exact hdomain _ hplace _ (hneighbours ▸ List.mem_map_of_mem hmem)
    have hfound : found = discoverNew key visited neighbours := discover_eq_discoverNew hinside
    have hmore : ∀ next ∈ waiting ++ found.1, key next ∈ domain := by
      intro next hmem
      rcases List.mem_append.mp hmem with hmem | hmem
      · exact hwaiting next hmem
      · rw [hfound] at hmem
        have hkey := (mem_discoverNew_found.mp (List.mem_map_of_mem hmem)).1
        exact hdomain _ hplace _ (hneighbours ▸ hkey)
    obtain ⟨known, hrounds⟩ := ih hmore hnext (order ++ [place])
    refine ⟨known, ?_⟩
    rw [visit, List.length_cons, Function.iterate_succ_apply, Search.round_cons, ← hfound]
    simpa using hrounds

end LuaAssist.Reach

import LuaAssist.Proofs.Reach.Rounds
import Mathlib.Order.Lattice.Nat

/-!
# The search goes by distance

What a breadth-first search finds over a finite graph: every node that can be reached from
the roots without entering an avoided node, once, the near nodes before the far ones. The
invariant of the loop speaks of layers. While the search takes places at some depth, the
queue holds what is left of that depth and then places one edge farther, and every node down
to that depth is known.
-/

namespace LuaAssist.Reach

variable {α κ σ : Type}

/-- A walk of the given length leads from a root to a node, and no node on it is avoided. -/
inductive Leads (edges : κ → List κ) (roots avoided : List κ) : Nat → κ → Prop
  | root {k : κ} (hroot : k ∈ roots) (hfree : k ∉ avoided) : Leads edges roots avoided 0 k
  | edge {length : Nat} {k next : κ} (hwalk : Leads edges roots avoided length k)
      (hedge : next ∈ edges k) (hfree : next ∉ avoided) :
      Leads edges roots avoided (length + 1) next

/-- The length of a shortest walk from a root to a node, without avoided nodes. -/
noncomputable def distance (edges : κ → List κ) (roots avoided : List κ) (k : κ) : Nat :=
  sInf {length | Leads edges roots avoided length k}

variable {edges : κ → List κ} {roots avoided : List κ}

/-- No walk is shorter than the distance. -/
theorem Leads.distance_le {length : Nat} {k : κ} (hwalk : Leads edges roots avoided length k) :
    distance edges roots avoided k ≤ length :=
  Nat.sInf_le hwalk

/-- Where there is a walk, one has the length of the distance. -/
theorem Leads.shortest {length : Nat} {k : κ} (hwalk : Leads edges roots avoided length k) :
    Leads edges roots avoided (distance edges roots avoided k) k :=
  Nat.sInf_mem (s := {length | Leads edges roots avoided length k}) ⟨length, hwalk⟩

/-! ## What is known -/

/-- What a search knows: the avoided nodes, and every node once that is or was queued. -/
structure Keeps (key : α → κ) (edges : κ → List κ) (roots avoided : List κ)
    (search : Search α κ σ) : Prop where
  known : ∀ k, k ∈ search.visited ↔ k ∈ avoided ∨ k ∈ (search.order ++ search.queue).map key
  nodup : ((search.order ++ search.queue).map key).Nodup
  fresh : ∀ k ∈ (search.order ++ search.queue).map key, k ∉ avoided
  roots_known : ∀ k ∈ roots, k ∈ search.visited
  /-- The neighbours of a place are known once it has left the queue. -/
  closed : ∀ place ∈ search.order, ∀ next ∈ edges (key place), next ∈ search.visited

namespace Keeps

variable {key : α → κ} {search : Search α κ σ}

/-- When the queue is empty, every node that can be reached has left it. -/
theorem mem_order (hkeeps : Keeps key edges roots avoided search) (hempty : search.queue = [])
    {length : Nat} {k : κ} (hwalk : Leads edges roots avoided length k) :
    k ∈ search.order.map key := by
  have hknown := hkeeps.known
  simp only [hempty, List.append_nil] at hknown
  induction hwalk with
  | root hroot hfree =>
    exact ((hknown _).mp (hkeeps.roots_known _ hroot)).resolve_left hfree
  | edge _ hedge hfree ih =>
    obtain ⟨place, hplace, rfl⟩ := List.mem_map.mp ih
    exact ((hknown _).mp (hkeeps.closed place hplace _ hedge)).resolve_left hfree

variable [DecidableEq κ] {expand : α → σ → List α × σ} {invariant : σ → Prop}

/-- At the start the roots that are not avoided are queued. -/
theorem start (key : α → κ) (edges : κ → List κ) (places : List α) (avoided : List κ)
    (state : σ) :
    Keeps key edges (places.map key) avoided (Search.start key places avoided state) where
  known := by
    intro k
    simp only [Search.start, List.nil_append, mem_discoverNew_known, mem_discoverNew_found]
    tauto
  nodup := nodup_discoverNew avoided places
  fresh := fun _ hk => (mem_discoverNew_found.mp hk).2
  roots_known := fun _ hroot => mem_discoverNew_known.mpr (Or.inr hroot)
  closed := nofun

/-- A round goes on to know the neighbours of the place that it takes. -/
theorem round (hfollows : Follows invariant key edges expand) (hstate : invariant search.state)
    (hkeeps : Keeps key edges roots avoided search) :
    Keeps key edges roots avoided (search.round key expand) := by
  obtain ⟨_ | ⟨place, waiting⟩, visited, order, state⟩ := search
  · exact hkeeps
  have hneighbours := (hfollows place state hstate).1
  have hknown := hkeeps.known
  have hmonotone : ∀ k ∈ visited, k ∈ (discoverNew key visited (expand place state).1).2 :=
    fun k hk => mem_discoverNew_known.mpr (Or.inl hk)
  have hsplit : order ++ [place] ++ (waiting ++ (discoverNew key visited (expand place state).1).1)
      = order ++ (place :: waiting) ++ (discoverNew key visited (expand place state).1).1 := by
    simp
  rw [Search.round_cons]
  constructor
  case known =>
    intro k
    rw [hsplit, List.map_append, List.mem_append, mem_discoverNew_known, mem_discoverNew_found,
      hknown]
    tauto
  case nodup =>
    rw [hsplit, List.map_append]
    refine hkeeps.nodup.append (nodup_discoverNew _ _) fun k hold hagain => ?_
    exact (mem_discoverNew_found.mp hagain).2 ((hknown k).mpr (Or.inr hold))
  case fresh =>
    intro k hk havoided
    rw [hsplit, List.map_append, List.mem_append] at hk
    rcases hk with hold | hnew
    · exact hkeeps.fresh k hold havoided
    · exact (mem_discoverNew_found.mp hnew).2 ((hknown k).mpr (Or.inl havoided))
  case roots_known => exact fun k hroot => hmonotone k (hkeeps.roots_known k hroot)
  case closed =>
    intro other hother next hedge
    rcases List.mem_append.mp hother with hother | hother
    · exact hmonotone next (hkeeps.closed other hother next hedge)
    · rw [List.mem_singleton.mp hother, ← hneighbours] at hedge
      exact mem_discoverNew_known.mpr (Or.inr hedge)

end Keeps

/-! ## Layers -/

/-- How far a search is that takes places at a depth. -/
structure Layered (key : α → κ) (edges : κ → List κ) (roots avoided : List κ) (depth : Nat)
    (search : Search α κ σ) : Prop where
  reached : ∀ place ∈ search.order ++ search.queue,
    ∃ length, Leads edges roots avoided length (key place)
  /-- No place has left the queue that is farther than the depth. -/
  passed : ∀ place ∈ search.order, distance edges roots avoided (key place) ≤ depth
  /-- The queue holds places at the depth, and behind them places one edge farther. -/
  layers : ∃ here farther, search.queue = here ++ farther ∧
    (∀ place ∈ here, distance edges roots avoided (key place) = depth) ∧
    ∀ place ∈ farther, distance edges roots avoided (key place) = depth + 1
  /-- Every node down to the depth is or was queued. -/
  covered : ∀ length k, length ≤ depth → Leads edges roots avoided length k →
    k ∈ (search.order ++ search.queue).map key
  sorted : search.order.Pairwise fun near far =>
    distance edges roots avoided (key near) ≤ distance edges roots avoided (key far)

namespace Layered

variable {key : α → κ} {depth : Nat} {search : Search α κ σ}

/-- Once no place of the depth is left in the queue, the search is one edge farther: a node
there is the neighbour of a place that has left the queue. -/
theorem descend (hlayered : Layered key edges roots avoided depth search)
    (hkeeps : Keeps key edges roots avoided search)
    (hqueue : ∀ place ∈ search.queue, distance edges roots avoided (key place) = depth + 1) :
    Layered key edges roots avoided (depth + 1) search where
  reached := hlayered.reached
  passed := fun place hplace => Nat.le_succ_of_le (hlayered.passed place hplace)
  layers := ⟨search.queue, [], (List.append_nil _).symm, hqueue, nofun⟩
  covered := by
    intro length k hlength hwalk
    rcases Nat.lt_or_eq_of_le hlength with hless | rfl
    · exact hlayered.covered length k (Nat.lt_succ_iff.mp hless) hwalk
    · cases hwalk with
      | edge hbefore hedge hfree =>
        obtain ⟨place, hplace, rfl⟩ := List.mem_map.mp (hlayered.covered depth _ le_rfl hbefore)
        have hle := hbefore.distance_le
        have hpassed : place ∈ search.order := by
          rcases List.mem_append.mp hplace with hpassed | hwaiting
          · exact hpassed
          · have heq := hqueue place hwaiting
            omega
        have hknown := hkeeps.closed place hpassed k hedge
        exact ((hkeeps.known k).mp hknown).resolve_left hfree
  sorted := hlayered.sorted

/-- A neighbour that is new is one edge farther than the depth. -/
theorem distance_new (hlayered : Layered key edges roots avoided depth search)
    (hkeeps : Keeps key edges roots avoided search) {place : α} (hplace : place ∈ search.queue)
    (hdepth : distance edges roots avoided (key place) = depth) {next : κ}
    (hedge : next ∈ edges (key place)) (hnew : next ∉ search.visited) :
    Leads edges roots avoided (depth + 1) next ∧
      distance edges roots avoided next = depth + 1 := by
  obtain ⟨_, hreached⟩ := hlayered.reached place (List.mem_append_right _ hplace)
  have hfree : next ∉ avoided := fun havoided => hnew ((hkeeps.known next).mpr (Or.inl havoided))
  have hwalk : Leads edges roots avoided (depth + 1) next :=
    .edge (hdepth ▸ hreached.shortest) hedge hfree
  refine ⟨hwalk, Nat.le_antisymm hwalk.distance_le ?_⟩
  by_contra hnear
  have hcovered := hlayered.covered _ next (by omega) hwalk.shortest
  exact hnew ((hkeeps.known next).mpr (Or.inr hcovered))

variable [DecidableEq κ] {expand : α → σ → List α × σ} {invariant : σ → Prop}

/-- At the start the roots are queued, at depth zero. -/
theorem start (key : α → κ) (edges : κ → List κ) (places : List α) (avoided : List κ)
    (state : σ) :
    Layered key edges (places.map key) avoided 0 (Search.start key places avoided state) := by
  have hroots : ∀ place ∈ (discoverNew key avoided places).1,
      Leads edges (places.map key) avoided 0 (key place) := by
    intro place hplace
    obtain ⟨hroot, hfree⟩ := mem_discoverNew_found.mp (List.mem_map_of_mem hplace)
    exact .root hroot hfree
  constructor
  case reached => exact fun place hplace => ⟨0, hroots place hplace⟩
  case passed => exact nofun
  case layers =>
    refine ⟨_, [], (List.append_nil _).symm, fun place hplace => ?_, nofun⟩
    exact Nat.le_zero.mp (hroots place hplace).distance_le
  case covered =>
    intro length k hlength hwalk
    cases hwalk with
    | root hroot hfree => exact mem_discoverNew_found.mpr ⟨hroot, hfree⟩
    | edge => omega
  case sorted => exact List.Pairwise.nil

/-- A round that takes a place of the depth keeps to the layers. -/
theorem round_here (hfollows : Follows invariant key edges expand) {place : α}
    {here farther : List α} {visited : List κ} {order : List α} {state : σ}
    (hstate : invariant state)
    (hlayered : Layered key edges roots avoided depth
      ⟨place :: here ++ farther, visited, order, state⟩)
    (hkeeps : Keeps key edges roots avoided ⟨place :: here ++ farther, visited, order, state⟩)
    (hhere : ∀ other ∈ place :: here, distance edges roots avoided (key other) = depth)
    (hfarther : ∀ other ∈ farther, distance edges roots avoided (key other) = depth + 1) :
    Layered key edges roots avoided depth
      (Search.round key expand ⟨place :: here ++ farther, visited, order, state⟩) := by
  obtain ⟨hplace, hothers⟩ := List.forall_mem_cons.mp hhere
  have hnew : ∀ next ∈ (discoverNew key visited (expand place state).1).1,
      Leads edges roots avoided (depth + 1) (key next) ∧
        distance edges roots avoided (key next) = depth + 1 := by
    intro next hnext
    obtain ⟨hedge, hfresh⟩ := mem_discoverNew_found.mp (List.mem_map_of_mem hnext)
    rw [(hfollows place state hstate).1] at hedge
    exact hlayered.distance_new hkeeps List.mem_cons_self hplace hedge hfresh
  have hsplit : order ++ [place] ++
        (here ++ farther ++ (discoverNew key visited (expand place state).1).1) =
      order ++ (place :: here ++ farther) ++
        (discoverNew key visited (expand place state).1).1 := by
    simp
  rw [List.cons_append, Search.round_cons]
  constructor
  case reached =>
    intro other hother
    rw [hsplit] at hother
    rcases List.mem_append.mp hother with hold | hjoined
    · exact hlayered.reached other hold
    · exact ⟨_, (hnew other hjoined).1⟩
  case passed =>
    intro other hother
    rcases List.mem_append.mp hother with hother | hother
    · exact hlayered.passed other hother
    · rw [List.mem_singleton.mp hother]
      exact hplace.le
  case layers =>
    refine ⟨here, farther ++ (discoverNew key visited (expand place state).1).1,
      List.append_assoc _ _ _, hothers, fun other hother => ?_⟩
    rcases List.mem_append.mp hother with hother | hother
    · exact hfarther other hother
    · exact (hnew other hother).2
  case covered =>
    intro length k hlength hwalk
    rw [hsplit, List.map_append]
    exact List.mem_append_left _ (hlayered.covered length k hlength hwalk)
  case sorted =>
    refine List.pairwise_append.mpr ⟨hlayered.sorted, List.pairwise_singleton _ _, ?_⟩
    intro near hnear far hfar
    rw [List.mem_singleton.mp hfar, hplace]
    exact hlayered.passed near hnear

/-- A round keeps to the layers, perhaps one edge farther. -/
theorem round (hfollows : Follows invariant key edges expand) (hstate : invariant search.state)
    (hkeeps : Keeps key edges roots avoided search)
    (hlayered : Layered key edges roots avoided depth search) :
    ∃ deeper, Layered key edges roots avoided deeper (search.round key expand) := by
  obtain ⟨here, farther, hqueue, hhere, hfarther⟩ := hlayered.layers
  obtain ⟨queue, visited, order, state⟩ := search
  subst hqueue
  match here, farther with
  | place :: here, farther =>
    exact ⟨depth, hlayered.round_here hfollows hstate hkeeps hhere hfarther⟩
  | [], [] => exact ⟨depth, hlayered⟩
  | [], place :: waiting =>
    have hdeeper := hlayered.descend hkeeps hfarther
    rw [List.nil_append, ← List.append_nil (place :: waiting)] at hdeeper hkeeps ⊢
    exact ⟨depth + 1, hdeeper.round_here hfollows hstate hkeeps hfarther nofun⟩

end Layered

/-! ## The whole search -/

variable [DecidableEq κ] {key : α → κ} {expand : α → σ → List α × σ} {invariant : σ → Prop}

/-- Rounds keep what is known and the layers, and after them the step was taken once for each
place that has left the queue. -/
theorem keeps_iterate_round (hfollows : Follows invariant key edges expand) (places : List α)
    (avoided : List κ) {state : σ} (hstate : invariant state) (rounds : Nat) :
    let search := (Search.round key expand)^[rounds] (Search.start key places avoided state)
    Keeps key edges (places.map key) avoided search ∧
      (∃ depth, Layered key edges (places.map key) avoided depth search) ∧
      invariant search.state ∧
      search.state = search.order.foldl (fun s place => (expand place s).2) state := by
  induction rounds with
  | zero => exact ⟨.start .., ⟨0, .start ..⟩, hstate, rfl⟩
  | succ rounds ih =>
    rw [Function.iterate_succ_apply']
    generalize (Search.round key expand)^[rounds] (Search.start key places avoided state) =
      search at ih
    obtain ⟨hkeeps, ⟨depth, hlayered⟩, hsearch, hcalls⟩ := ih
    refine ⟨hkeeps.round hfollows hsearch, hlayered.round hfollows hsearch hkeeps, ?_⟩
    obtain ⟨_ | ⟨place, waiting⟩, visited, order, final⟩ := search
    · exact ⟨hsearch, hcalls⟩
    · refine ⟨(hfollows place final hsearch).2, ?_⟩
      rw [Search.round_cons, List.foldl_append, ← hcalls]
      rfl

/-- Over a finite graph that the step follows, with its nodes in the domain, the answer of the
search is what the loop over the queue has taken when the queue is empty. -/
theorem exists_rounds_breadthFirst {domain : List κ}
    (hfollows : Follows invariant key edges expand)
    (hdomain : ∀ k ∈ domain, ∀ next ∈ edges k, next ∈ domain) {roots : List α}
    (hroots : ∀ root ∈ roots, key root ∈ domain) (visited : List κ) {state : σ}
    (hstate : invariant state) :
    let answer := breadthFirst key domain expand roots visited state
    ∃ known, (Search.round key expand)^[answer.1.length] (Search.start key roots visited state) =
      ⟨[], known, answer.1, answer.2⟩ := by
  intro answer
  have hstart : discover key domain visited roots = discoverNew key visited roots :=
    discover_eq_discoverNew hroots
  have hqueue : ∀ place ∈ (discoverNew key visited roots).1, key place ∈ domain := by
    intro place hplace
    have hroot := (mem_discoverNew_found.mp (List.mem_map_of_mem hplace)).1
    obtain ⟨root, hroot, heq⟩ := List.mem_map.mp hroot
    exact heq ▸ hroots root hroot
  obtain ⟨known, hrounds⟩ := iterate_round_eq_visit hfollows hdomain hqueue
    (discoverNew key visited roots).2 hstate []
  refine ⟨known, ?_⟩
  rw [← hstart] at hrounds
  rw [Search.start, ← hstart]
  exact hrounds

/-- The answer holds each node once that can be reached, and no other. -/
theorem mem_breadthFirst_iff {domain : List κ} (hfollows : Follows invariant key edges expand)
    (hdomain : ∀ k ∈ domain, ∀ next ∈ edges k, next ∈ domain) {roots : List α}
    (hroots : ∀ root ∈ roots, key root ∈ domain) (visited : List κ) {state : σ}
    (hstate : invariant state) :
    let answer := breadthFirst key domain expand roots visited state
    (answer.1.map key).Nodup ∧
      ∀ k, k ∈ answer.1.map key ↔ ∃ length, Leads edges (roots.map key) visited length k := by
  intro answer
  obtain ⟨known, hrounds⟩ := exists_rounds_breadthFirst hfollows hdomain hroots visited hstate
  obtain ⟨hkeeps, ⟨depth, hlayered⟩, _⟩ :=
    keeps_iterate_round hfollows roots visited hstate answer.1.length
  rw [hrounds] at hkeeps hlayered
  have hnodup := hkeeps.nodup
  rw [List.append_nil] at hnodup
  refine ⟨hnodup, fun k => ⟨fun hk => ?_, ?_⟩⟩
  · obtain ⟨place, hplace, rfl⟩ := List.mem_map.mp hk
    exact hlayered.reached place (List.mem_append_left _ hplace)
  · rintro ⟨length, hwalk⟩
    exact hkeeps.mem_order rfl hwalk

/-- Over a finite graph that the step follows, with its nodes in the domain, the loop over the
queue runs dry, and it does so after as many rounds as the answer has places. The answer holds
each place that can be reached from the roots without entering a place that is known from the
start, and no other; it holds each once, and by increasing distance from the roots. The state
at the end is that of taking the step once for each place of the answer, in their order. -/
theorem breadthFirst_by_distance {domain : List κ} (hfollows : Follows invariant key edges expand)
    (hdomain : ∀ k ∈ domain, ∀ next ∈ edges k, next ∈ domain) {roots : List α}
    (hroots : ∀ root ∈ roots, key root ∈ domain) (visited : List κ) {state : σ}
    (hstate : invariant state) :
    let answer := breadthFirst key domain expand roots visited state
    (∃ known, (Search.round key expand)^[answer.1.length]
        (Search.start key roots visited state) = ⟨[], known, answer.1, answer.2⟩) ∧
      (answer.1.map key).Nodup ∧
      (∀ place ∈ answer.1, key place ∉ visited) ∧
      (∀ k, k ∈ answer.1.map key ↔ ∃ length, Leads edges (roots.map key) visited length k) ∧
      (answer.1.Pairwise fun near far =>
        distance edges (roots.map key) visited (key near) ≤
          distance edges (roots.map key) visited (key far)) ∧
      answer.2 = answer.1.foldl (fun s place => (expand place s).2) state := by
  intro answer
  obtain ⟨known, hrounds⟩ := exists_rounds_breadthFirst hfollows hdomain hroots visited hstate
  obtain ⟨hnodup, hreached⟩ := mem_breadthFirst_iff hfollows hdomain hroots visited hstate
  obtain ⟨hkeeps, ⟨depth, hlayered⟩, _, hcalls⟩ :=
    keeps_iterate_round hfollows roots visited hstate answer.1.length
  rw [hrounds] at hkeeps hlayered hcalls
  refine ⟨⟨known, hrounds⟩, hnodup, fun place hplace => ?_, hreached, hlayered.sorted, hcalls⟩
  exact hkeeps.fresh _ (List.mem_map_of_mem (List.mem_append_left _ hplace))

/-- Files that require each other: `/a` and `/b` form a cycle, `/a` requires itself under
another spelling, and the way to `/y` leads through `/x`. -/
def crossing (parts : List Path.Part) : List Path :=
  if parts = [.root, .name ['a']] then
    [⟨"/b".toList⟩, ⟨"//a".toList⟩, ⟨"/x".toList⟩]
  else if parts = [.root, .name ['b']] then [⟨"/a".toList⟩, ⟨"/c".toList⟩]
  else if parts = [.root, .name ['x']] then [⟨"/y".toList⟩]
  else []

/-- A root that is named twice and one that is known from the start; the step writes down for
which places it is taken. -/
theorem breadthFirst_by_distance_crossing :
    let files := ["/a", "/b", "/c", "/x", "/y"].map fun file => Path.parts ⟨file.toList⟩
    let edges := fun parts => (crossing parts).map Path.parts
    let expand := fun (place : Path) (calls : List Path) =>
      (crossing place.parts, calls ++ [place])
    let roots : List Path := [⟨"/a".toList⟩, ⟨"/x".toList⟩, ⟨"/a/".toList⟩]
    let answer := breadthFirst Path.parts files expand roots [Path.parts ⟨"/x".toList⟩] []
    Follows (fun _ => True) Path.parts edges expand ∧
      (∀ k ∈ files, ∀ next ∈ edges k, next ∈ files) ∧
      (∀ root ∈ roots, root.parts ∈ files) ∧
      Path.parts ⟨"/c".toList⟩ ∈ answer.1.map Path.parts ∧
      (answer.1.map Path.parts).Nodup ∧
      answer.2 = answer.1 := by
  intro files edges expand roots answer
  have hfollows : Follows (fun _ => True) Path.parts edges expand := fun _ _ _ => ⟨rfl, trivial⟩
  have hdomain : ∀ k ∈ files, ∀ next ∈ edges k, next ∈ files := by decide +kernel
  have hroots : ∀ root ∈ roots, root.parts ∈ files := by decide +kernel
  obtain ⟨_, hnodup, _, hreach, _, hcalls⟩ :=
    breadthFirst_by_distance hfollows hdomain hroots [Path.parts ⟨"/x".toList⟩] trivial
  refine ⟨hfollows, hdomain, hroots, (hreach _).mpr ⟨2, ?_⟩, hnodup, ?_⟩
  · have ha : Leads edges (roots.map Path.parts) [Path.parts ⟨"/x".toList⟩] 0
        (Path.parts ⟨"/a".toList⟩) := .root (by decide +kernel) (by decide +kernel)
    have hb : Leads edges (roots.map Path.parts) [Path.parts ⟨"/x".toList⟩] 1
        (Path.parts ⟨"/b".toList⟩) := .edge ha (by decide +kernel) (by decide +kernel)
    exact .edge hb (by decide +kernel) (by decide +kernel)
  · calc answer.2 = answer.1.foldl (fun calls place => calls ++ [place]) [] := hcalls
      _ = answer.1.flatMap fun place => [place] := by
        rw [List.foldl_append_eq_append, List.nil_append, List.flatMap_def]
      _ = answer.1 := List.flatMap_singleton' _

end LuaAssist.Reach

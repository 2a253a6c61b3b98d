import LuaAssist.Resolve

/-!
# Following references

Breadth-first search from some places over a finite domain. The step that finds the
neighbours of a place may carry a state along, such as a cache; it is taken exactly once
for every place of the answer, in the order of the answer.
-/

namespace LuaAssist.Reach

variable {α κ σ : Type} [DecidableEq κ]

/-- The places that are in the domain and new, each once, with the keys that are known
after them. -/
def discover (key : α → κ) (domain visited : List κ) : List α → List α × List κ
  | [] => ([], visited)
  | place :: rest =>
    if domain.contains (key place) && !visited.contains (key place) then
      let (found, after) := discover key domain (key place :: visited) rest
      (place :: found, after)
    else discover key domain visited rest

/-- The keys of the domain that are not known. -/
def unvisited (domain visited : List κ) : Nat :=
  (domain.filter fun k => !visited.contains k).length

/-- A further key of the domain counts if it is not known. -/
theorem unvisited_cons_domain (u : κ) (domain visited : List κ) :
    unvisited (u :: domain) visited =
      unvisited domain visited + if u ∈ visited then 0 else 1 := by
  unfold unvisited
  by_cases hu : u ∈ visited
  · rw [List.filter_cons_of_neg (by simpa using hu), if_pos hu, Nat.add_zero]
  · rw [List.filter_cons_of_pos (by simpa using hu), if_neg hu, List.length_cons]

/-- With one more key known no more are left. -/
theorem unvisited_cons_le (domain visited : List κ) (k : κ) :
    unvisited domain (k :: visited) ≤ unvisited domain visited := by
  induction domain with
  | nil => exact Nat.le_refl _
  | cons u rest ih =>
    rw [unvisited_cons_domain, unvisited_cons_domain]
    by_cases hu : u ∈ visited
    · rw [if_pos hu, if_pos (List.mem_cons_of_mem k hu)]
      exact ih
    · rw [if_neg hu]
      split <;> omega

/-- With a new key of the domain known fewer are left. -/
theorem unvisited_cons_lt {domain visited : List κ} {k : κ} (hk : k ∈ domain)
    (hnew : k ∉ visited) : unvisited domain (k :: visited) < unvisited domain visited := by
  induction domain with
  | nil => exact absurd hk List.not_mem_nil
  | cons u rest ih =>
    have hle := unvisited_cons_le rest visited k
    rw [unvisited_cons_domain, unvisited_cons_domain]
    rcases List.mem_cons.mp hk with rfl | hmem
    · rw [if_pos List.mem_cons_self, if_neg hnew]
      omega
    · have hlt := ih hmem
      by_cases hu : u ∈ visited
      · rw [if_pos hu, if_pos (List.mem_cons_of_mem k hu)]
        exact hlt
      · rw [if_neg hu]
        split <;> omega

/-- Either nothing is found and nothing changes, or fewer keys are left. -/
theorem discover_measure (key : α → κ) (domain visited : List κ) (places : List α) :
    (discover key domain visited places = ([], visited)) ∨
      unvisited domain (discover key domain visited places).2 <
        unvisited domain visited := by
  induction places generalizing visited with
  | nil => simp [discover]
  | cons place rest ih =>
    unfold discover
    split
    · rename_i h
      simp only [Bool.and_eq_true, Bool.not_eq_true', List.contains_eq_mem,
        decide_eq_true_eq, decide_eq_false_iff_not] at h
      right
      have hlt := unvisited_cons_lt h.1 h.2
      rcases ih (key place :: visited) with heq | hless
      · simp only [heq]
        exact hlt
      · exact Nat.lt_trans hless hlt
    · exact ih visited

/-- The search from a queue of places. -/
def visit (key : α → κ) (domain : List κ) (expand : α → σ → List α × σ)
    (queue : List α) (visited : List κ) (state : σ) : List α × σ :=
  match queue with
  | [] => ([], state)
  | place :: waiting =>
    let neighbours := (expand place state).1
    let found := discover key domain visited neighbours
    let (order, final) :=
      visit key domain expand (waiting ++ found.1) found.2 (expand place state).2
    (place :: order, final)
  termination_by (unvisited domain visited, queue.length)
  decreasing_by
    rcases discover_measure key domain visited (expand place state).1 with heq | hless
    · simp only [heq, List.append_nil]
      exact Prod.Lex.right _ (by simp)
    · exact Prod.Lex.left _ _ hless

/-- Everything that can be reached from the roots without entering a place that is known
from the start, the near places first. -/
def breadthFirst (key : α → κ) (domain : List κ) (expand : α → σ → List α × σ)
    (roots : List α) (visited : List κ) (state : σ) : List α × σ :=
  let start := discover key domain visited roots
  visit key domain expand start.1 start.2 state

end LuaAssist.Reach

import LuaAssist.Scope
import Mathlib.Data.List.Infix
import Mathlib.Data.List.Nodup

/-!
# The chains of a scope

What entering a chain and absorbing members do to the set of chains of a scope. These
lemmas read the operations of a scope as set operations, so that later arguments speak of
prefixes only.
-/

namespace LuaAssist.Scope

/-- A prefix of two chains put together is one of the first, or goes on from it. -/
theorem prefix_append_iff {front base rest : Chain} :
    front <+: base ++ rest ↔
      front <+: base ∨ ∃ more, more ≠ [] ∧ more <+: rest ∧ base ++ more = front := by
  constructor
  · intro hfront
    rcases List.prefix_or_prefix_of_prefix hfront (List.prefix_append base rest) with
      hwithin | ⟨more, rfl⟩
    · exact Or.inl hwithin
    · by_cases hnil : more = []
      · exact Or.inl (by simp [hnil])
      · exact Or.inr ⟨more, hnil, (List.prefix_append_right_inj base).mp hfront, rfl⟩
  · rintro (hwithin | ⟨more, _, hmore, rfl⟩)
    · exact hwithin.trans (List.prefix_append base rest)
    · exact (List.prefix_append_right_inj base).mpr hmore

/-- What goes on from a chain is not a part of it. -/
theorem not_append_within {base rest : Chain} (hne : rest ≠ []) : ¬base ++ rest <+: base := by
  intro hpart
  have hlength := hpart.length_le
  have hpos := List.length_pos_of_ne_nil hne
  rw [List.length_append] at hlength
  omega

/-- A chain passes through exactly its prefixes that are not empty. -/
@[simp] theorem mem_fronts {front chain : Chain} :
    front ∈ fronts chain ↔ front ≠ [] ∧ front <+: chain := by
  induction chain generalizing front with
  | nil => simp [fronts]
  | cons name rest ih =>
    cases front with
    | nil => simp [fronts]
    | cons head tail =>
      simp only [fronts, List.mem_cons, List.mem_map, ih, List.cons.injEq,
        List.cons_prefix_cons, ne_eq, reduceCtorEq, not_false_eq_true, true_and]
      constructor
      · rintro (⟨rfl, rfl⟩ | ⟨front, ⟨_, hfront⟩, rfl, rfl⟩)
        · exact ⟨rfl, List.nil_prefix⟩
        · exact ⟨rfl, hfront⟩
      · rintro ⟨rfl, htail⟩
        by_cases hnil : tail = []
        · exact Or.inl ⟨rfl, hnil⟩
        · exact Or.inr ⟨tail, ⟨hnil, htail⟩, rfl, rfl⟩

/-- A chain that is known already is not added. -/
theorem add_of_contains {scope : Scope} {chain : Chain} (hknown : scope.contains chain = true) :
    scope.add chain = scope := if_pos hknown

/-- A chain is closed if and only if a closed chain goes on from the base and is a prefix of
the chain told from the root. -/
theorem isSealed_iff {closed : List Chain} {base chain : Chain} :
    isSealed closed base chain = true ↔
      ∃ front, front ≠ [] ∧ front <+: chain ∧ base ++ front ∈ closed := by
  simp [isSealed, and_assoc]

/-- Adding a chain adds that chain, unless it is the root. -/
theorem mem_add {scope : Scope} {added chain : Chain} :
    chain ∈ (scope.add added).chains ↔ chain ∈ scope.chains ∨ chain ≠ [] ∧ chain = added := by
  unfold add contains
  split
  · rename_i hknown
    simp only [Bool.or_eq_true, decide_eq_true_eq, List.contains_eq_mem] at hknown
    constructor
    · exact Or.inl
    · rintro (hmem | ⟨hne, rfl⟩)
      · exact hmem
      · exact hknown.resolve_left hne
  · rename_i hnew
    simp only [Bool.or_eq_true, decide_eq_true_eq, not_or] at hnew
    simp only [List.mem_append, List.mem_singleton]
    constructor
    · rintro (hmem | rfl)
      · exact Or.inl hmem
      · exact Or.inr ⟨hnew.1, rfl⟩
    · rintro (hmem | ⟨_, heq⟩)
      · exact Or.inl hmem
      · exact Or.inr heq

/-- Adding several chains adds each of them. -/
theorem mem_foldl_add {scope : Scope} {added : List Chain} {chain : Chain} :
    chain ∈ (added.foldl add scope).chains ↔ chain ∈ scope.chains ∨ chain ≠ [] ∧ chain ∈ added := by
  induction added generalizing scope with
  | nil => simp
  | cons first rest ih =>
    simp only [List.foldl_cons, ih, mem_add, List.mem_cons]
    tauto

/-- Entering a chain adds its prefixes. -/
theorem mem_enter {scope : Scope} {path chain : Chain} :
    chain ∈ (scope.enter path).chains ↔ chain ∈ scope.chains ∨ chain ≠ [] ∧ chain <+: path := by
  unfold enter
  rw [mem_foldl_add, mem_fronts]
  tauto

/-- Absorbing members as a fold over the chains from the root. -/
theorem absorb_eq_foldl_add (scope : Scope) (base : Chain) (members closed : List Chain) :
    scope.absorb base members closed =
      ((members.filter fun chain => !isSealed closed base chain).map (base ++ ·)).foldl add
        scope := by
  rw [absorb, List.foldl_map]

/-- Absorbing members adds, below the base, those that are not closed. -/
theorem mem_absorb {scope : Scope} {base chain : Chain} {members closed : List Chain} :
    chain ∈ (scope.absorb base members closed).chains ↔
      chain ∈ scope.chains ∨ chain ≠ [] ∧
        ∃ member ∈ members, isSealed closed base member = false ∧ base ++ member = chain := by
  rw [absorb_eq_foldl_add, mem_foldl_add]
  simp only [List.mem_map, List.mem_filter, Bool.not_eq_true', and_assoc]

/-- Every chain of the scope stands in it once. -/
theorem nodup_add {scope : Scope} {added : Chain} (hnodup : scope.chains.Nodup) :
    (scope.add added).chains.Nodup := by
  unfold add contains
  split
  · exact hnodup
  · rename_i hnew
    simp only [Bool.or_eq_true, decide_eq_true_eq, List.contains_eq_mem, not_or] at hnew
    exact List.Nodup.append hnodup (List.nodup_singleton _)
      (List.disjoint_singleton.mpr hnew.2)

/-- Adding chains repeats none. -/
theorem nodup_foldl_add {scope : Scope} {added : List Chain} (hnodup : scope.chains.Nodup) :
    (added.foldl add scope).chains.Nodup := by
  induction added generalizing scope with
  | nil => exact hnodup
  | cons first rest ih => exact ih (nodup_add hnodup)

/-- Entering a chain repeats none. -/
theorem nodup_enter {scope : Scope} {path : Chain} (hnodup : scope.chains.Nodup) :
    (scope.enter path).chains.Nodup :=
  nodup_foldl_add hnodup

/-- Absorbing members repeats no chain. -/
theorem nodup_absorb {scope : Scope} {base : Chain} {members closed : List Chain}
    (hnodup : scope.chains.Nodup) : (scope.absorb base members closed).chains.Nodup := by
  rw [absorb_eq_foldl_add]
  exact nodup_foldl_add hnodup

/-- What follows the root in a chain is the chain. -/
theorem after?_nil (chain : Chain) : after? [] chain = if chain = [] then none else some chain := by
  cases chain <;> simp [after?]

/-- The visible names are the chains of one name, in the order of the scope. -/
theorem names_eq (scope : Scope) :
    scope.names = scope.chains.filterMap fun chain =>
      match chain with
      | [name] => some name
      | _ => none := by
  have hroot : scope.contains [] = true := by simp [contains]
  simp only [names, members?, hroot, if_true, Option.getD_some, below, List.filterMap_filterMap,
    after?_nil]
  congr 1
  funext chain
  rcases chain with _ | ⟨first, _ | ⟨second, rest⟩⟩ <;> rfl

/-- A name is visible if the chain of that name alone stands in the scope. -/
theorem mem_names {scope : Scope} {name : Text} : name ∈ scope.names ↔ [name] ∈ scope.chains := by
  rw [names_eq, List.mem_filterMap]
  constructor
  · rintro ⟨chain, hmem, hone⟩
    split at hone
    · cases hone
      exact hmem
    · cases hone
  · intro hmem
    exact ⟨[name], hmem, rfl⟩

/-- Every visible name is told once. -/
theorem nodup_names {scope : Scope} (hnodup : scope.chains.Nodup) : scope.names.Nodup := by
  rw [names_eq]
  refine hnodup.filterMap ?_
  intro chain other name hchain hother
  split at hchain
  · split at hother
    · simp_all
    · cases hother
  · cases hchain

end LuaAssist.Scope

import LuaAssist.Proofs.Scope.Chains
import LuaAssist.Proofs.Scope.Collected
import LuaAssist.Scope.Visible
import Mathlib.Data.Set.Basic

/-!
# Shadowing as forward execution

The walk through bindings goes from the last to the first and never takes anything back:
it passes over what a later binding has closed. Here it is compared with the plain
machine that executes bindings in document order, where a binding deletes whatever stood
at its path and below. Both leave the same chains, because in either case a chain lasts if
and only if it is given by a binding behind which no other binds the chain or a part of it.
-/

namespace LuaAssist.Scope

/-- The chains that a binding gives: its path with all parents, and the members of its value
below the path. -/
def given (binding : Binding) : Set Chain :=
  {chain | chain ≠ [] ∧ chain <+: binding.path} ∪
    {chain | ∃ member ∈ binding.value.members, binding.path ++ member = chain}

/-- Executes a binding on a tree: the subtree at its path is deleted, the path is created
again, with empty parents where they are missing, and the members of the value are added
below it. -/
def execute (tree : Set Chain) (binding : Binding) : Set Chain :=
  {chain | chain ∈ tree ∧ ¬binding.path <+: chain} ∪ given binding

/-- Executes bindings in document order on the empty tree. -/
def executeAll (bindings : List Binding) : Set Chain := bindings.foldl execute ∅

/-- A chain lasts through bindings if some binding gives it and no later one deletes it. -/
def Lasts (chain : Chain) : List Binding → Prop
  | [] => False
  | binding :: later =>
    Lasts chain later ∨ chain ∈ given binding ∧ ∀ other ∈ later, ¬other.path <+: chain

/-- A chain stands in the tree behind a binding if the binding gives it, or if it stood there
before and is not deleted. -/
theorem mem_execute {tree : Set Chain} {binding : Binding} {chain : Chain} :
    chain ∈ execute tree binding ↔
      (chain ∈ tree ∧ ¬binding.path <+: chain) ∨ chain ∈ given binding :=
  Iff.rfl

/-- What a forward execution leaves: the chains that last, and those of the tree at its start
that nothing deletes. -/
theorem mem_foldl_execute {tree : Set Chain} {bindings : List Binding} {chain : Chain} :
    chain ∈ bindings.foldl execute tree ↔
      (chain ∈ tree ∧ ∀ binding ∈ bindings, ¬binding.path <+: chain) ∨ Lasts chain bindings := by
  induction bindings generalizing tree with
  | nil => simp [Lasts]
  | cons binding later ih =>
    simp only [List.foldl_cons, ih, mem_execute, Lasts, List.forall_mem_cons]
    tauto

/-- The forward execution leaves exactly the chains that last. -/
theorem mem_executeAll {bindings : List Binding} {chain : Chain} :
    chain ∈ executeAll bindings ↔ Lasts chain bindings := by
  simp [executeAll, mem_foldl_execute]

/-- A part of a bound path lasts unless a binding deletes it: each later binding of a longer
path creates it again. -/
theorem lasts_of_prefix_path {bindings : List Binding} {binding : Binding} {chain : Chain}
    (hmem : binding ∈ bindings) (hne : chain ≠ []) (hpart : chain <+: binding.path)
    (hkept : ∀ other ∈ bindings, ¬other.path <+: chain) : Lasts chain bindings := by
  induction bindings with
  | nil => cases hmem
  | cons first later ih =>
    have hlater := fun other hother => hkept other (List.mem_cons_of_mem _ hother)
    rcases List.mem_cons.mp hmem with rfl | hrest
    · exact Or.inr ⟨Or.inl ⟨hne, hpart⟩, hlater⟩
    · exact Or.inl (ih hrest hlater)

/-! ## The walk -/

/-- The walk through bindings, one binding earlier. -/
theorem Walk.through_cons (binding : Binding) (later : List Binding) :
    Walk.through (binding :: later) = (Walk.through later).step binding := by
  simp [Walk.through]

/-- A binding whose path is closed is passed over. -/
theorem Walk.step_of_isSealed {walk : Walk} {binding : Binding}
    (hsealed : isSealed walk.closed [] binding.path = true) : walk.step binding = walk :=
  if_pos hsealed

/-- The paths that are closed behind a binding whose path was not. -/
theorem Walk.closed_step {walk : Walk} {binding : Binding}
    (hopen : ¬isSealed walk.closed [] binding.path = true) :
    (walk.step binding).closed = binding.path :: walk.closed := by
  rw [step, if_neg hopen]

/-- The scope behind a binding whose path was not closed. -/
theorem Walk.scope_step {walk : Walk} {binding : Binding}
    (hopen : ¬isSealed walk.closed [] binding.path = true) :
    (walk.step binding).scope =
      (walk.scope.enter binding.path).absorb binding.path binding.value.members walk.closed := by
  rw [step, if_neg hopen]

/-- The aliases behind a binding that is none. -/
theorem Walk.aliases_step {walk : Walk} {binding : Binding} (hplain : binding.value.target = none) :
    (walk.step binding).aliases = walk.aliases := by
  unfold step
  split
  · rfl
  · simp only [hplain]

/-- Without aliases among the bindings the walk finds none. -/
theorem Walk.aliases_through {bindings : List Binding}
    (hplain : ∀ binding ∈ bindings, binding.value.target = none) :
    (Walk.through bindings).aliases = [] := by
  induction bindings with
  | nil => rfl
  | cons binding later ih =>
    rw [through_cons, aliases_step (hplain binding List.mem_cons_self)]
    exact ih fun other hother => hplain other (List.mem_cons_of_mem _ hother)

/-- The walk keeps every chain once. -/
theorem Walk.nodup_through (bindings : List Binding) :
    (Walk.through bindings).scope.chains.Nodup := by
  induction bindings with
  | nil => exact List.nodup_nil
  | cons binding later ih =>
    rw [through_cons]
    by_cases hsealed : isSealed (through later).closed [] binding.path = true
    · rwa [step_of_isSealed hsealed]
    · rw [scope_step hsealed]
      exact nodup_absorb (nodup_enter ih)

/-- A path is closed for the walk if and only if a later binding binds it or a part of it. A
binding that is passed over closes nothing, but lies below a path that is closed already. -/
theorem Walk.isSealed_through {bindings : List Binding}
    (hpaths : ∀ binding ∈ bindings, binding.path ≠ []) (path : Chain) :
    isSealed (Walk.through bindings).closed [] path = true ↔
      ∃ binding ∈ bindings, binding.path <+: path := by
  induction bindings generalizing path with
  | nil => simp [Walk.through, Walk.start, isSealed]
  | cons binding later ih =>
    have hpath := hpaths binding List.mem_cons_self
    have ih := ih fun other hother => hpaths other (List.mem_cons_of_mem _ hother)
    rw [through_cons]
    by_cases hsealed : isSealed (through later).closed [] binding.path = true
    · rw [step_of_isSealed hsealed, ih]
      obtain ⟨cover, hcover, hcovers⟩ := (ih _).mp hsealed
      constructor
      · rintro ⟨other, hother, hbelow⟩
        exact ⟨other, List.mem_cons_of_mem _ hother, hbelow⟩
      · rintro ⟨other, hother, hbelow⟩
        rcases List.mem_cons.mp hother with rfl | hother
        · exact ⟨cover, hcover, hcovers.trans hbelow⟩
        · exact ⟨other, hother, hbelow⟩
    · have hold := ih path
      simp only [isSealed_iff, List.nil_append] at hold
      simp only [isSealed_iff, closed_step hsealed, List.nil_append, List.mem_cons]
      constructor
      · rintro ⟨front, hne, hfront, rfl | hclosed⟩
        · exact ⟨binding, Or.inl rfl, hfront⟩
        · obtain ⟨other, hother, hbelow⟩ := hold.mp ⟨front, hne, hfront, hclosed⟩
          exact ⟨other, Or.inr hother, hbelow⟩
      · rintro ⟨other, rfl | hother, hbelow⟩
        · exact ⟨other.path, hpath, hbelow, Or.inl rfl⟩
        · obtain ⟨front, hne, hfront, hclosed⟩ := hold.mpr ⟨other, hother, hbelow⟩
          exact ⟨front, hne, hfront, Or.inr hclosed⟩

/-- Below a path that is not closed, a member is closed if and only if a later binding binds
its chain or a part of it. -/
theorem Walk.isSealed_member {bindings : List Binding} {path member : Chain}
    (hpaths : ∀ binding ∈ bindings, binding.path ≠ [])
    (hopen : ¬isSealed (Walk.through bindings).closed [] path = true) :
    isSealed (Walk.through bindings).closed path member = true ↔
      ∃ binding ∈ bindings, binding.path <+: path ++ member := by
  rw [← isSealed_through hpaths _, isSealed_iff, isSealed_iff]
  constructor
  · rintro ⟨front, hne, hfront, hclosed⟩
    exact ⟨path ++ front, by simp [hne], (List.prefix_append_right_inj path).mpr hfront, hclosed⟩
  · rintro ⟨front, hne, hfront, hclosed⟩
    rcases List.prefix_or_prefix_of_prefix hfront (List.prefix_append path member) with
      hwithin | ⟨rest, rfl⟩
    · exact absurd (isSealed_iff.mpr ⟨front, hne, hwithin, hclosed⟩) hopen
    · refine ⟨rest, ?_, (List.prefix_append_right_inj path).mp hfront, hclosed⟩
      rintro rfl
      exact hopen (isSealed_iff.mpr ⟨path ++ [], hne, by simp, hclosed⟩)

/-- The walk finds exactly the chains that last. -/
theorem Walk.mem_through {bindings : List Binding} {chain : Chain}
    (hpaths : ∀ binding ∈ bindings, binding.path ≠ []) :
    chain ∈ (Walk.through bindings).scope.chains ↔ Lasts chain bindings := by
  induction bindings with
  | nil => simp [Walk.through, Walk.start, Scope.empty, Lasts]
  | cons binding later ih =>
    have hpath := hpaths binding List.mem_cons_self
    have hlater := fun other hother => hpaths other (List.mem_cons_of_mem _ hother)
    have ih := ih hlater
    rw [through_cons, Lasts]
    by_cases hsealed : isSealed (through later).closed [] binding.path = true
    · -- What a hidden binding gives is deleted by the later binding that hides it, but for the
      -- parents above that one, which it gives itself.
      rw [step_of_isSealed hsealed, ih]
      obtain ⟨cover, hcover, hcovers⟩ := (isSealed_through hlater _).mp hsealed
      refine ⟨Or.inl, ?_⟩
      rintro (hlasts | ⟨⟨hne, hpart⟩ | ⟨member, _, rfl⟩, hkept⟩)
      · exact hlasts
      · rcases List.prefix_or_prefix_of_prefix hcovers hpart with habove | hbelow
        · exact absurd habove (hkept cover hcover)
        · exact lasts_of_prefix_path hcover hne hbelow hkept
      · exact absurd (hcovers.trans (List.prefix_append _ _)) (hkept cover hcover)
    · have hfree : ∀ other ∈ later, ¬other.path <+: binding.path := by
        intro other hother habove
        exact hsealed ((isSealed_through hlater _).mpr ⟨other, hother, habove⟩)
      rw [scope_step hsealed, mem_absorb, mem_enter, ih, or_assoc]
      refine or_congr_right ?_
      constructor
      · rintro (⟨hne, hpart⟩ | ⟨_, member, hmember, hclear, rfl⟩)
        · exact ⟨Or.inl ⟨hne, hpart⟩, fun other hother habove =>
            hfree other hother (habove.trans hpart)⟩
        · refine ⟨Or.inr ⟨member, hmember, rfl⟩, fun other hother habove => ?_⟩
          have hclosed := (isSealed_member hlater hsealed).mpr ⟨other, hother, habove⟩
          rw [hclear] at hclosed
          cases hclosed
      · rintro ⟨⟨hne, hpart⟩ | ⟨member, hmember, rfl⟩, hkept⟩
        · exact Or.inl ⟨hne, hpart⟩
        · refine Or.inr ⟨by simp [hpath], member, hmember, ?_, rfl⟩
          rw [Bool.eq_false_iff]
          intro hclosed
          obtain ⟨other, hother, habove⟩ := (isSealed_member hlater hsealed).mp hclosed
          exact hkept other hother habove

/-- A name lasts if and only if it is the first of a bound path: only a binding of the name
itself deletes it, and that creates it again. -/
theorem lasts_singleton {bindings : List Binding} {name : Text}
    (hpaths : ∀ binding ∈ bindings, binding.path ≠ []) :
    Lasts [name] bindings ↔ ∃ binding ∈ bindings, binding.path.head? = some name := by
  induction bindings with
  | nil => simp [Lasts]
  | cons binding later ih =>
    have ih := ih fun other hother => hpaths other (List.mem_cons_of_mem _ hother)
    obtain ⟨first, rest, hpath⟩ := List.exists_cons_of_ne_nil (hpaths binding List.mem_cons_self)
    have hgiven : [name] ∈ given binding ↔ first = name := by
      simp only [given, hpath, Set.mem_union]
      constructor
      · rintro (⟨_, hpart⟩ | ⟨member, _, hchain⟩)
        · exact (List.cons_prefix_cons.mp hpart).1.symm
        · rw [List.cons_append] at hchain
          exact (List.cons.inj hchain).1
      · rintro rfl
        exact Or.inl ⟨List.cons_ne_nil _ _, List.cons_prefix_cons.mpr ⟨rfl, List.nil_prefix⟩⟩
    rw [Lasts, ih, hgiven]
    constructor
    · rintro (⟨other, hother, hname⟩ | ⟨rfl, _⟩)
      · exact ⟨other, List.mem_cons_of_mem _ hother, hname⟩
      · exact ⟨binding, List.mem_cons_self, by rw [hpath]; rfl⟩
    · rintro ⟨other, hother, hname⟩
      by_cases hagain : ∃ third ∈ later, third.path.head? = some name
      · exact Or.inl hagain
      · rcases List.mem_cons.mp hother with rfl | hother
        · rw [hpath] at hname
          cases hname
          refine Or.inr ⟨rfl, fun third hthird habove => hagain ⟨third, hthird, ?_⟩⟩
          have hthird := hpaths third (List.mem_cons_of_mem _ hthird)
          obtain ⟨front, others, heq⟩ := List.exists_cons_of_ne_nil hthird
          rw [heq] at habove ⊢
          exact congrArg some (List.cons_prefix_cons.mp habove).1
        · exact absurd ⟨other, hother, hname⟩ hagain

/-- The backward walk over recognised bindings, whose paths are never empty, leaves the same
chains as their execution in document order. Where no value is an alias, that is all there is
to a scope: what is visible at a place is the outcome of the execution, every chain once, and
the visible names are the first names of the bound paths, each once. -/
theorem shadowing_eq_execution :
    (∀ bindings : List Binding, (∀ binding ∈ bindings, binding.path ≠ []) →
      {chain | chain ∈ (Walk.through bindings).scope.chains} = executeAll bindings ∧
        (Walk.through bindings).scope.chains.Nodup) ∧
    ∀ (text : Text) (offset : Nat),
      (∀ binding ∈ Binding.collect (Word.before text offset), binding.value.target = none) →
      {chain | chain ∈ (visible text offset).chains} =
          executeAll (Binding.collect (Word.before text offset)) ∧
        (visible text offset).chains.Nodup ∧ (visible text offset).names.Nodup ∧
        ∀ name, name ∈ (visible text offset).names ↔
          ∃ binding ∈ Binding.collect (Word.before text offset),
            binding.path.head? = some name := by
  have hwalk : ∀ bindings : List Binding, (∀ binding ∈ bindings, binding.path ≠ []) →
      {chain | chain ∈ (Walk.through bindings).scope.chains} = executeAll bindings := by
    intro bindings hpaths
    ext chain
    exact (Walk.mem_through hpaths).trans mem_executeAll.symm
  refine ⟨fun bindings hpaths => ⟨hwalk bindings hpaths, Walk.nodup_through bindings⟩, ?_⟩
  intro text offset hplain
  have hpaths : ∀ binding ∈ Binding.collect (Word.before text offset), binding.path ≠ [] :=
    fun _ => Binding.path_ne_nil_of_mem_collect
  have hvisible : visible text offset =
      (Walk.through (Binding.collect (Word.before text offset))).scope := by
    simp only [visible, ofBindings, Walk.aliases_through hplain, List.foldl_nil]
  rw [hvisible]
  refine ⟨hwalk _ hpaths, Walk.nodup_through _, nodup_names (Walk.nodup_through _), ?_⟩
  intro name
  rw [mem_names, Walk.mem_through hpaths, lasts_singleton hpaths]

/-- A member that is bound again, and a table that is bound again behind it. -/
theorem shadowing_eq_execution_rebound :
    (∀ binding ∈ Binding.collect (Word.before "t.a = 1
t = {b = {}}
t.b.c = 2
".toList 31),
      binding.value.target = none) ∧
    ∀ name, name ∈ (visible "t.a = 1
t = {b = {}}
t.b.c = 2
".toList 31).names ↔
      ∃ binding ∈ Binding.collect (Word.before "t.a = 1
t = {b = {}}
t.b.c = 2
".toList 31),
        binding.path.head? = some name := by
  have hplain : ∀ binding ∈
      Binding.collect (Word.before "t.a = 1
t = {b = {}}
t.b.c = 2
".toList 31),
      binding.value.target = none := by decide +kernel
  exact ⟨hplain, (shadowing_eq_execution.2 _ _ hplain).2.2.2⟩

end LuaAssist.Scope

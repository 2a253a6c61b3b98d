import LuaAssist.Proofs.Scope.Chains
import LuaAssist.Proofs.Scope.Collected

/-!
# Scopes are trees

With a chain a scope holds all chains that it passes through. The members of a table
constructor form such a tree, and entering a chain and absorbing a tree keep to it.
-/

namespace LuaAssist

namespace Scope

/-- Chains that form a tree: with a chain all that it passes through. -/
def IsTree (chains : List Chain) : Prop :=
  ∀ chain ∈ chains, ∀ front, front ≠ [] → front <+: chain → front ∈ chains

/-- No chains make a tree. -/
theorem isTree_nil : IsTree [] := nofun

/-- The chains below a base are told by the chains that go on from it. -/
theorem mem_below {scope : Scope} {base chain : Chain} :
    chain ∈ scope.below base ↔ chain ≠ [] ∧ base ++ chain ∈ scope.chains := by
  simp only [below, List.mem_filterMap, after?, Bool.and_eq_true, decide_eq_true_eq,
    Option.ite_none_right_eq_some, Option.some.injEq, List.isPrefixOf_iff_prefix]
  constructor
  · rintro ⟨whole, hwhole, ⟨⟨rest, rfl⟩, hlonger⟩, hrest⟩
    rw [List.drop_left] at hrest
    subst hrest
    refine ⟨?_, hwhole⟩
    rintro rfl
    simp at hlonger
  · rintro ⟨hne, hwhole⟩
    refine ⟨base ++ chain, hwhole, ⟨List.prefix_append _ _, ?_⟩, List.drop_left⟩
    have hpos := List.length_pos_of_ne_nil hne
    rw [List.length_append]
    omega

/-- Behind a closed front a chain is closed. -/
theorem isSealed_mono {closed : List Chain} {base front chain : Chain}
    (hfront : front <+: chain) (hsealed : isSealed closed base front = true) :
    isSealed closed base chain = true := by
  obtain ⟨part, hne, hpart, hclosed⟩ := isSealed_iff.mp hsealed
  exact isSealed_iff.mpr ⟨part, hne, hpart.trans hfront, hclosed⟩

/-- What is known below a chain of a tree is a tree. -/
theorem IsTree.below {scope : Scope} (htree : IsTree scope.chains) (base : Chain) :
    IsTree (scope.below base) := by
  intro chain hchain front hne hfront
  obtain ⟨_, hwhole⟩ := mem_below.mp hchain
  refine mem_below.mpr ⟨hne, htree _ hwhole _ (by simp [hne]) ?_⟩
  exact (List.prefix_append_right_inj base).mpr hfront

/-- Entering a chain keeps a tree. -/
theorem IsTree.enter {scope : Scope} (htree : IsTree scope.chains) (path : Chain) :
    IsTree (scope.enter path).chains := by
  intro chain hchain front hne hfront
  rcases mem_enter.mp hchain with hold | ⟨_, hpart⟩
  · exact mem_enter.mpr (Or.inl (htree chain hold front hne hfront))
  · exact mem_enter.mpr (Or.inr ⟨hne, hfront.trans hpart⟩)

/-- A chain that is entered with a tree of members below it keeps a tree. -/
theorem IsTree.enter_absorb {scope : Scope} {base : Chain} {members : List Chain}
    (htree : IsTree scope.chains) (hmembers : IsTree members) (closed : List Chain) :
    IsTree ((scope.enter base).absorb base members closed).chains := by
  intro chain hchain front hne hfront
  rw [mem_absorb]
  rcases mem_absorb.mp hchain with hold | ⟨_, member, hmember, hopen, rfl⟩
  · exact Or.inl (htree.enter base chain hold front hne hfront)
  · rcases prefix_append_iff.mp hfront with hwithin | ⟨rest, hnil, hrest, rfl⟩
    · exact Or.inl (mem_enter.mpr (Or.inr ⟨hne, hwithin⟩))
    · refine Or.inr ⟨hne, rest, hmembers member hmember rest hnil hrest, ?_, rfl⟩
      rw [Bool.eq_false_iff] at hopen ⊢
      exact fun hsealed => hopen (isSealed_mono hrest hsealed)

end Scope

namespace Constructor

open Scope

/-- A finished table hands over a tree. -/
theorem isTree_close {inner outer : Frame} (hinner : IsTree inner.members.chains)
    (houter : IsTree outer.members.chains) : IsTree (inner.close outer).members.chains := by
  unfold Frame.close
  split
  · exact houter
  · exact houter.enter_absorb hinner []

/-- The members that a constructor gives form a tree. -/
theorem isTree_membersFrom {pending : Option Text} {frame : Frame} {outer : List Frame}
    {previous : Word} {words : List Word} (hframe : IsTree frame.members.chains)
    (houter : ∀ parent ∈ outer, IsTree parent.members.chains) :
    IsTree (membersFrom pending frame outer previous words).1.chains := by
  fun_induction membersFrom pending frame outer previous words with
  | case1 pending frame outer previous =>
    induction outer generalizing frame with
    | nil => exact hframe
    | cons parent others ih =>
      obtain ⟨hparent, hothers⟩ := List.forall_mem_cons.mp houter
      exact ih _ (isTree_close hframe hparent) hothers
  | case2 pending frame outer previous word rest hopen ih =>
    exact ih isTree_nil (List.forall_mem_cons.mpr ⟨hframe, houter⟩)
  | case3 => exact hframe
  | case4 pending frame previous word rest hopen hclose parent others ih =>
    obtain ⟨hparent, hothers⟩ := List.forall_mem_cons.mp houter
    exact ih (isTree_close hframe hparent) hothers
  | case5 pending frame outer previous word rest hopen hclose key more hkey ih =>
    exact ih (hframe.enter [key]) houter
  | case6 pending frame outer previous word rest hopen hclose hkey ih => exact ih hframe houter

end Constructor

namespace Binding

/-- The members of a recognised value form a tree. -/
theorem isTree_of_mem_collect {words : List Word} {binding : Binding}
    (hmem : binding ∈ collect words) : Scope.IsTree binding.value.members := by
  cases recognised_of_mem_collect hmem with
  | bare => exact Scope.isTree_nil
  | valued _ words =>
    unfold readValue
    dsimp only
    split
    · exact Constructor.isTree_membersFrom Scope.isTree_nil nofun
    · split
      · exact Scope.isTree_nil
      · exact Scope.isTree_nil

end Binding

end LuaAssist

import LuaAssist.Proofs.Scope.Sharing
import Mathlib.Logic.Relation

/-!
# What aliases see of their tables

An alias gets a copy of the members that its target has when its turn comes, and the turns
come in document order. So it sees what bindings anywhere give to the target, and what aliases
in front of it bring there, but not what reaches the target through an alias behind it alone.
That is the only way in which it can miss a member, as long as no table is copied into itself.
-/

namespace LuaAssist

namespace Binding

/-- What holds of the bindings of every text. -/
structure WellFormed (binding : Binding) : Prop where
  path_ne_nil : binding.path ≠ []
  isTree_members : Scope.IsTree binding.value.members
  /-- An alias shares the table of a chain, and knows nothing else. -/
  alias_target : ∀ target, binding.value.target = some target →
    target ≠ [] ∧ binding.value.members = []

/-- The bindings of a text are well-formed. -/
theorem wellFormed_of_mem_collect {words : List Word} {binding : Binding}
    (hmem : binding ∈ collect words) : binding.WellFormed where
  path_ne_nil := path_ne_nil_of_mem_collect hmem
  isTree_members := isTree_of_mem_collect hmem
  alias_target := by
    intro target
    cases recognised_of_mem_collect hmem with
    | bare => exact nofun
    | valued _ words =>
      unfold readValue
      dsimp only
      split
      · exact nofun
      · split
        · rename_i chain after hread
          obtain ⟨hchain, _⟩ := Option.filter_eq_some_iff.mp hread
          intro htarget
          cases htarget
          exact ⟨chain?_ne_nil hchain, rfl⟩
        · exact nofun

/-- A binding whose value is taken for one that shares no table. -/
def unshared (binding : Binding) : Binding :=
  { binding with value := { binding.value with target := none } }

end Binding

namespace Scope

/-- An alias below one name shares a table below another. -/
def Depends (bindings : List Binding) (user used : Text) : Prop :=
  ∃ binding ∈ bindings, ∃ target, binding.value.target = some target ∧
    binding.path.head? = some user ∧ target.head? = some used

/-- Following aliases from name to name never leads back. -/
def Acyclic (bindings : List Binding) : Prop :=
  ∀ name, ¬Relation.TransGen (Depends bindings) name name

/-- Aliases of names that stand behind the names of their targets in a list have no cycle. -/
theorem acyclic_of_order {bindings : List Binding} (names : List Text)
    (horder : ∀ binding ∈ bindings, ∀ target ∈ binding.value.target,
      names.idxOf (target.headD []) < names.idxOf (binding.path.headD [])) : Acyclic bindings := by
  intro name hcycle
  have hdescend : ∀ used, Relation.TransGen (Depends bindings) name used →
      names.idxOf used < names.idxOf name := by
    intro used hleads
    have hstep : ∀ {user used}, Depends bindings user used →
        names.idxOf used < names.idxOf user := by
      rintro user used ⟨binding, hmem, target, htarget, huser, hused⟩
      have hless := horder binding hmem target htarget
      rwa [List.headD_eq_head?_getD, List.headD_eq_head?_getD, huser, hused] at hless
    induction hleads with
    | single hdepends => exact hstep hdepends
    | tail _ hdepends ih => exact (hstep hdepends).trans ih
  exact absurd (hdescend name hcycle) (Nat.lt_irrefl _)

/-- Without cycles an alias and its target start with different names, so neither lies within
the other. -/
theorem Acyclic.head?_ne {bindings : List Binding} (hacyclic : Acyclic bindings)
    {binding : Binding} (hmem : binding ∈ bindings) (hpath : binding.path ≠ []) {target : Chain}
    (htarget : binding.value.target = some target) : binding.path.head? ≠ target.head? := by
  intro heq
  obtain ⟨name, rest, hname⟩ := List.exists_cons_of_ne_nil hpath
  rw [hname, List.head?_cons] at heq
  refine hacyclic name (.single ⟨binding, hmem, target, htarget, ?_, heq.symm⟩)
  rw [hname, List.head?_cons]

/-- A chain is no prefix of one that starts with another name. -/
theorem not_prefix_of_head?_ne {chain other : Chain} (hne : chain ≠ [])
    (hhead : chain.head? ≠ other.head?) : ¬chain <+: other := by
  rintro ⟨rest, rfl⟩
  exact hhead (List.head?_append_of_ne_nil _ hne).symm

/-! ## Turns -/

/-- A chain that is new behind some aliases lies on the way to one of them or below it. -/
theorem mem_of_mem_foldl_share {closed : List Chain} {scope : Scope} {chain : Chain}
    {links : List (Chain × Chain)} (hmem : chain ∈ (links.foldl (share closed) scope).chains)
    (habove : ∀ link ∈ links, chain <+: link.1 → chain ∈ scope.chains)
    (hbelow : ∀ link ∈ links, link.1 <+: chain → link.1 = chain) : chain ∈ scope.chains := by
  induction links generalizing scope with
  | nil => exact hmem
  | cons link links ih =>
    obtain ⟨hhere, hothers⟩ := List.forall_mem_cons.mp habove
    obtain ⟨hlink, hlinks⟩ := List.forall_mem_cons.mp hbelow
    have hshared := ih hmem (fun other hother hpart =>
      mem_share.mpr (Or.inl (hothers other hother hpart))) hlinks
    rcases mem_share.mp hshared with hold | ⟨_, _, hpart | ⟨member, hmember, _, rfl⟩⟩
    · exact hold
    · exact hhere hpart
    · have heq := hlink (List.prefix_append _ _)
      exact absurd (List.self_eq_append_right.mp heq) (mem_below.mp hmember).1

namespace Walk

/-- What is closed is the chain of a binding that no later one hides. -/
theorem of_mem_closed_append (earlier later : List Binding) {path : Chain}
    (hpaths : ∀ binding ∈ earlier ++ later, binding.path ≠ [])
    (hpath : path ∈ (through (earlier ++ later)).closed) :
    path ∈ (through later).closed ∨
      ∃ binding ∈ earlier, binding.path = path ∧ ∀ other ∈ later, ¬other.path <+: path := by
  induction earlier with
  | nil => exact Or.inl hpath
  | cons binding earlier ih =>
    have hbehind := fun other hother => hpaths other (List.mem_cons_of_mem _ hother)
    have hmore : path ∈ (through (earlier ++ later)).closed → path ∈ (through later).closed ∨
        ∃ other ∈ binding :: earlier, other.path = path ∧ ∀ third ∈ later, ¬third.path <+: path :=
      fun hpath => (ih hbehind hpath).imp_right fun ⟨other, hother, hrest⟩ =>
        ⟨other, List.mem_cons_of_mem _ hother, hrest⟩
    rw [List.cons_append, through_cons] at hpath
    by_cases hsealed : isSealed (through (earlier ++ later)).closed [] binding.path = true
    · rw [step_of_isSealed hsealed] at hpath
      exact hmore hpath
    · rw [closed_step hsealed] at hpath
      rcases List.mem_cons.mp hpath with rfl | hpath
      · refine Or.inr ⟨binding, List.mem_cons_self, rfl, fun other hother habove => ?_⟩
        exact hsealed ((isSealed_through hbehind _).mpr
          ⟨other, List.mem_append_right _ hother, habove⟩)
      · exact hmore hpath

/-- Below a chain that is bound, only what a later binding binds there is closed. -/
theorem isSealed_below_eq_false {earlier later : List Binding} {binding : Binding}
    {member : Chain} (hpaths : ∀ other ∈ earlier ++ binding :: later, other.path ≠ [])
    (hfree : ∀ front, front ≠ [] → front <+: member →
      ∀ other ∈ later, other.path ≠ binding.path ++ front) :
    isSealed (through (earlier ++ binding :: later)).closed binding.path member = false := by
  rw [Bool.eq_false_iff, ne_eq, isSealed_iff]
  rintro ⟨front, hne, hfront, hclosed⟩
  have hhere := fun other hother => hpaths other (List.mem_append_right earlier hother)
  have hbehind := fun other hother => hhere other (List.mem_cons_of_mem binding hother)
  rcases of_mem_closed_append _ _ hpaths hclosed with hclosed | ⟨_, _, _, hopen⟩
  · rcases of_mem_closed_append [binding] later hhere hclosed with
      hclosed | ⟨other, hother, heq, _⟩
    · rcases of_mem_closed_append later [] (by simpa using hbehind)
        (by rwa [List.append_nil]) with hclosed | ⟨other, hother, heq, _⟩
      · cases hclosed
      · exact hfree front hne hfront other hother heq
    · rw [List.mem_singleton.mp hother] at heq
      exact hne (List.self_eq_append_right.mp heq)
  · exact hopen binding List.mem_cons_self (List.prefix_append _ _)

/-- The scope of a walk is a tree. -/
theorem isTree_through {bindings : List Binding}
    (htrees : ∀ binding ∈ bindings, IsTree binding.value.members) :
    IsTree (through bindings).scope.chains := by
  induction bindings with
  | nil => exact isTree_nil
  | cons binding later ih =>
    obtain ⟨htree, htrees⟩ := List.forall_mem_cons.mp htrees
    rw [through_cons]
    by_cases hsealed : isSealed (through later).closed [] binding.path = true
    · rw [step_of_isSealed hsealed]
      exact ih htrees
    · rw [scope_step hsealed]
      exact (ih htrees).enter_absorb htree _

/-- A walk that has found other aliases. -/
def linked (walk : Walk) (links : List (Chain × Chain)) : Walk := { walk with aliases := links }

/-- A walk goes on in the same way whatever aliases it has found. -/
theorem step_linked (walk : Walk) (links : List (Chain × Chain)) (binding : Binding) :
    ∃ more, walk.step binding = (walk.step binding).linked (more ++ walk.aliases) ∧
      (walk.linked links).step binding = (walk.step binding).linked (more ++ links) := by
  by_cases hsealed : isSealed walk.closed [] binding.path = true
  · refine ⟨[], ?_, ?_⟩
    · rw [step_of_isSealed hsealed]
      rfl
    · rw [step_of_isSealed hsealed]
      exact step_of_isSealed hsealed
  · refine ⟨(binding.value.target.map fun target => (binding.path, target)).toList, ?_, ?_⟩ <;>
      simp only [step, linked, hsealed] <;> cases binding.value.target <;> rfl

/-- A binding that shares nothing leaves no alias. -/
theorem step_unshared (walk : Walk) (binding : Binding) :
    walk.step binding.unshared = (walk.step binding).linked walk.aliases := by
  by_cases hsealed : isSealed walk.closed [] binding.path = true
  · rw [step_of_isSealed hsealed]
    exact step_of_isSealed hsealed
  · simp only [step, Binding.unshared, linked, hsealed]
    rfl

/-- Whether later bindings share tables makes no difference to a walk but for their aliases. -/
theorem through_append_unshared (earlier later : List Binding) :
    ∃ front, (through (earlier ++ later)).aliases = front ++ (through later).aliases ∧
      through (earlier ++ later.map Binding.unshared) =
        (through (earlier ++ later)).linked front := by
  induction earlier with
  | nil =>
    refine ⟨[], rfl, ?_⟩
    induction later with
    | nil => rfl
    | cons binding later ih =>
      obtain ⟨more, _, hlinked⟩ := step_linked (through later) [] binding
      simp only [List.nil_append] at ih ⊢
      rw [List.map_cons, through_cons, through_cons, step_unshared, ih, hlinked]
      rfl
  | cons binding earlier ih =>
    obtain ⟨front, hfront, hunshared⟩ := ih
    obtain ⟨more, hmore, hlinked⟩ := step_linked (through (earlier ++ later)) front binding
    rw [List.cons_append, List.cons_append, through_cons, through_cons, hunshared, hlinked]
    refine ⟨more ++ front, ?_, rfl⟩
    rw [hmore, hfront, List.append_assoc]
    rfl

end Walk

/-- An alias that no later binding hides has its turn behind the aliases in front of it, none
of which goes on from its chain. What the aliases behind it add comes after that. -/
theorem exists_turns {earlier later : List Binding} {binding : Binding} {target : Chain}
    (hpaths : ∀ other ∈ earlier ++ binding :: later, other.path ≠ [])
    (htarget : binding.value.target = some target)
    (hlast : ∀ other ∈ later, ¬other.path <+: binding.path) :
    ∃ front : List (Chain × Chain), (∀ link ∈ front, ¬binding.path <+: link.1) ∧
      let walk := Walk.through (earlier ++ binding :: later)
      let alone := ofBindings (earlier ++ binding :: later.map Binding.unshared)
      alone = share walk.closed (front.foldl (share walk.closed) walk.scope)
          (binding.path, target) ∧
        ofBindings (earlier ++ binding :: later) =
          (Walk.through later).aliases.foldl (share walk.closed) alone := by
  obtain ⟨front, hfront, hhidden⟩ := Walk.aliases_append hpaths
  obtain ⟨front', hfront', hunshared⟩ := Walk.through_append_unshared (earlier ++ [binding]) later
  have hbehind : ∀ other ∈ later, other.path ≠ [] := fun other hother =>
    hpaths other (List.mem_append_right _ (List.mem_cons_of_mem _ hother))
  have hopen : ¬isSealed (Walk.through later).closed [] binding.path = true := by
    rw [Walk.isSealed_through hbehind]
    rintro ⟨other, hother, habove⟩
    exact hlast other hother habove
  rw [Walk.aliases_cons hopen, htarget] at hfront
  simp only [List.append_assoc, List.singleton_append] at hfront' hunshared
  have hsame : front' = front ++ [(binding.path, target)] := by
    refine List.append_cancel_right (?_ : front' ++ (Walk.through later).aliases = _)
    rw [← hfront', hfront, List.append_assoc]
    rfl
  refine ⟨front, fun link hlink => hhidden link hlink binding List.mem_cons_self, ?_, ?_⟩
  · rw [ofBindings, hunshared, hsame]
    exact List.foldl_append
  · rw [ofBindings, ofBindings, hunshared, hfront']
    exact List.foldl_append

/-- An alias leaves alone what starts with another name. -/
theorem mem_share_of_head?_ne {closed : List Chain} {scope : Scope} {link : Chain × Chain}
    {chain : Chain} (hne : link.1 ≠ []) (hhead : chain.head? ≠ link.1.head?) :
    chain ∈ (share closed scope link).chains ↔ chain ∈ scope.chains := by
  rw [mem_share]
  refine ⟨?_, Or.inl⟩
  rintro (hold | ⟨_, hchain, hpart | ⟨member, _, _, rfl⟩⟩)
  · exact hold
  · exact absurd hpart (not_prefix_of_head?_ne hchain hhead)
  · exact absurd (List.head?_append_of_ne_nil _ hne) hhead

/-- An alias has, below its chain, what was there before and what its target has, as far as no
binding closes it. -/
theorem mem_share_below {closed : List Chain} {scope : Scope} {path target member : Chain}
    (htree : IsTree scope.chains) (htarget : target ≠ []) (hne : member ≠ [])
    (hopen : isSealed closed path member = false) :
    path ++ member ∈ (share closed scope (path, target)).chains ↔
      path ++ member ∈ scope.chains ∨ target ++ member ∈ scope.chains := by
  rw [mem_share]
  refine or_congr_right ?_
  constructor
  · rintro ⟨_, _, hpart | ⟨copied, hcopied, _, heq⟩⟩
    · exact absurd hpart (not_append_within hne)
    · rw [List.append_cancel_left heq] at hcopied
      exact (mem_below.mp hcopied).2
  · intro hmember
    have hknown : target ∈ scope.chains :=
      htree _ hmember target htarget (List.prefix_append _ _)
    refine ⟨by simp [contains, hknown], by simp [hne], Or.inr ⟨member, ?_, hopen, rfl⟩⟩
    exact mem_below.mpr ⟨hne, hmember⟩

/-- An alias sees its table but for the aliases behind it. Let no later binding bind the alias
or a part of it, nor a chain from the alias to one of its members. Then the alias has that
member if and only if its target has it once the later bindings are taken for plain ones, or a
later binding goes on from the member. -/
theorem alias_member_iff {earlier later : List Binding} {binding : Binding}
    {target member : Chain} (hformed : ∀ other ∈ earlier ++ binding :: later, other.WellFormed)
    (hacyclic : Acyclic (earlier ++ binding :: later))
    (htarget : binding.value.target = some target)
    (hlast : ∀ other ∈ later, ¬other.path <+: binding.path)
    (hne : member ≠ [])
    (hfree : ∀ front, front ≠ [] → front <+: member →
      ∀ other ∈ later, other.path ≠ binding.path ++ front) :
    binding.path ++ member ∈ (ofBindings (earlier ++ binding :: later)).chains ↔
      target ++ member ∈
          (ofBindings (earlier ++ binding :: later.map Binding.unshared)).chains ∨
        ∃ other ∈ later, binding.path ++ member <+: other.path := by
  have hpaths := fun other hother => (hformed other hother).path_ne_nil
  have hhere : binding ∈ earlier ++ binding :: later :=
    List.mem_append_right _ List.mem_cons_self
  have hbehind : ∀ other ∈ later, other.path ≠ [] := fun other hother =>
    hpaths other (List.mem_append_right _ (List.mem_cons_of_mem _ hother))
  obtain ⟨htargetNil, hbare⟩ := (hformed binding hhere).alias_target target htarget
  have hheads := hacyclic.head?_ne hhere (hpaths binding hhere) htarget
  have hkept : ∀ other ∈ later, ¬other.path <+: binding.path ++ member := by
    intro other hother habove
    rcases prefix_append_iff.mp habove with hwithin | ⟨front, hfront, hpart, heq⟩
    · exact hlast other hother hwithin
    · exact hfree front hfront hpart other hother heq.symm
  obtain ⟨front, hhidden, halone, hwhole⟩ := exists_turns hpaths htarget hlast
  generalize ofBindings (earlier ++ binding :: later.map Binding.unshared) = alone at *
  set walk := Walk.through (earlier ++ binding :: later)
  set turn := front.foldl (share walk.closed) walk.scope
  have hturn : binding.path ++ member ∈ turn.chains ↔
      ∃ other ∈ later, binding.path ++ member <+: other.path := by
    rw [mem_foldl_share_of_closed (Walk.path_mem_closed earlier hbehind hlast) hhidden,
      Walk.mem_through hpaths, lasts_below hne hkept, hbare]
    exact or_iff_right List.not_mem_nil
  have hcopy : binding.path ++ member ∈ alone.chains ↔
      binding.path ++ member ∈ turn.chains ∨ target ++ member ∈ turn.chains := by
    have htree : IsTree turn.chains :=
      (Walk.isTree_through fun other hother => (hformed other hother).isTree_members).foldl_share
        _ _
    rw [halone]
    exact mem_share_below htree htargetNil hne (Walk.isSealed_below_eq_false hpaths hfree)
  have hsource : target ++ member ∈ alone.chains ↔ target ++ member ∈ turn.chains := by
    rw [halone]
    refine mem_share_of_head?_ne (hpaths binding hhere) ?_
    rw [List.head?_append_of_ne_nil _ htargetNil]
    exact hheads.symm
  -- The aliases behind can only add the member on the way to their own paths, where the walk
  -- has put it already.
  have hrest : binding.path ++ member ∈ (ofBindings (earlier ++ binding :: later)).chains ↔
      binding.path ++ member ∈ alone.chains := by
    rw [hwhole]
    refine ⟨fun hmem => mem_of_mem_foldl_share hmem ?_ ?_, mem_foldl_share_of_mem _⟩
    · intro link hlink hpart
      obtain ⟨_, other, _, rfl, hother, _⟩ := Walk.exists_of_mem_aliases hbehind hlink
      exact hcopy.mpr (Or.inl (hturn.mpr
        ⟨other, List.mem_append_right _ List.mem_cons_self, hother ▸ hpart⟩))
    · intro link hlink hpart
      obtain ⟨_, other, _, rfl, hother, _⟩ := Walk.exists_of_mem_aliases hbehind hlink
      exact absurd (hother ▸ hpart) (hkept other (List.mem_append_right _ List.mem_cons_self))
  rw [hrest, hcopy, hturn, hsource, or_comm]

/-- A table that gets a member through an alias in front of the alias that shares it, and
another member behind that. -/
def earlyText : Text := "other = {x = 1}
lib = {}
lib.sub = other
a = lib
lib.more = other
".toList

/-- The alias sees the member that came through the alias in front of it. -/
theorem alias_member_iff_early :
    Binding.collect (Word.before earlyText 66) =
        [⟨["other".toList], ⟨[["x".toList]], none⟩⟩, ⟨["lib".toList], ⟨[], none⟩⟩,
          ⟨["lib".toList, "sub".toList], ⟨[], some ["other".toList]⟩⟩] ++
        ⟨["a".toList], ⟨[], some ["lib".toList]⟩⟩ ::
          [⟨["lib".toList, "more".toList], ⟨[], some ["other".toList]⟩⟩] ∧
      ["a".toList, "sub".toList, "x".toList] ∈ (visible earlyText 66).chains := by
  have hcollect : Binding.collect (Word.before earlyText 66) =
      [⟨["other".toList], ⟨[["x".toList]], none⟩⟩, ⟨["lib".toList], ⟨[], none⟩⟩,
        ⟨["lib".toList, "sub".toList], ⟨[], some ["other".toList]⟩⟩] ++
      ⟨["a".toList], ⟨[], some ["lib".toList]⟩⟩ ::
        [⟨["lib".toList, "more".toList], ⟨[], some ["other".toList]⟩⟩] := by decide +kernel
  have hformed : ∀ other ∈ Binding.collect (Word.before earlyText 66), other.WellFormed :=
    fun _ => Binding.wellFormed_of_mem_collect
  refine ⟨hcollect, ?_⟩
  rw [hcollect] at hformed
  rw [visible, hcollect]
  have hsees := @alias_member_iff _ _ _ _ ["sub".toList, "x".toList] hformed
    (acyclic_of_order ["other".toList, "lib".toList, "a".toList] (by decide)) rfl (by decide)
    (by decide) (by
      intro front _ _ other hother heq
      rw [List.mem_singleton.mp hother] at heq
      exact absurd (congrArg List.head? heq) (by simp))
  exact hsees.mpr (Or.inl (by decide +kernel))

/-- The same with the alias to the table in front. -/
def lateText : Text := "other = {x = 1}
lib = {}
a = lib
lib.sub = other
".toList

/-- An alias misses a member that reaches its table through an alias behind it, although the
aliases have no cycle and nothing that is written later binds the alias, its table, a part of
either or a chain on the way to the member. -/
theorem alias_misses_member :
    let bindings := Binding.collect (Word.before lateText 49)
    Acyclic bindings ∧
      ∃ earlier later, bindings = earlier ++ ⟨["a".toList], ⟨[], some ["lib".toList]⟩⟩ :: later ∧
        (∀ other ∈ later, ¬other.path <+: ["a".toList]) ∧
        (∀ other ∈ later, ¬other.path <+: ["lib".toList]) ∧
        (∀ front, front ≠ [] → front <+: ["sub".toList, "x".toList] →
          ∀ other ∈ later, other.path ≠ ["a".toList] ++ front) ∧
        ["lib".toList] ++ ["sub".toList, "x".toList] ∈ (visible lateText 49).chains ∧
        ["a".toList] ++ ["sub".toList, "x".toList] ∉ (visible lateText 49).chains := by
  intro bindings
  have hcollect : bindings =
      [⟨["other".toList], ⟨[["x".toList]], none⟩⟩, ⟨["lib".toList], ⟨[], none⟩⟩] ++
      ⟨["a".toList], ⟨[], some ["lib".toList]⟩⟩ ::
        [⟨["lib".toList, "sub".toList], ⟨[], some ["other".toList]⟩⟩] := by decide +kernel
  refine ⟨?_, _, _, hcollect, by decide, by decide, ?_, by decide +kernel, by decide +kernel⟩
  · rw [hcollect]
    exact acyclic_of_order ["other".toList, "lib".toList, "a".toList] (by decide)
  · intro front _ _ other hother heq
    rw [List.mem_singleton.mp hother] at heq
    exact absurd (congrArg List.head? heq) (by simp)

end Scope

end LuaAssist

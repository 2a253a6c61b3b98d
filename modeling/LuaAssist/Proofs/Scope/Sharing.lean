import LuaAssist.Proofs.Scope.Shadowing
import LuaAssist.Proofs.Scope.Trees

/-!
# What aliases share

Behind the walk through bindings every visible alias gets a copy of the members that its
target has by then, in document order. A copy stops at the chains that the walk has closed,
so a table that a binding fills keeps exactly the members of its value, whatever aliases of
tables around it copy.
-/

namespace LuaAssist.Scope

/-! ## One alias -/

/-- An alias adds its chain and, below it, the members of its target that are not closed,
provided that the scope knows the target. -/
theorem mem_share {closed : List Chain} {scope : Scope} {link : Chain × Chain} {chain : Chain} :
    chain ∈ (share closed scope link).chains ↔
      chain ∈ scope.chains ∨ scope.contains link.2 = true ∧ chain ≠ [] ∧
        (chain <+: link.1 ∨ ∃ member ∈ scope.below link.2,
          isSealed closed link.1 member = false ∧ link.1 ++ member = chain) := by
  unfold share
  split
  · rename_i hknown
    simp only [mem_absorb, mem_enter, hknown]
    tauto
  · rename_i hunknown
    simp [hunknown]

/-- Aliases take nothing away. -/
theorem mem_foldl_share_of_mem {closed : List Chain} {scope : Scope} {chain : Chain}
    (links : List (Chain × Chain)) (hmem : chain ∈ scope.chains) :
    chain ∈ (links.foldl (share closed) scope).chains := by
  induction links generalizing scope with
  | nil => exact hmem
  | cons link links ih => exact ih (mem_share.mpr (Or.inl hmem))

/-- Aliases keep a tree. -/
theorem IsTree.foldl_share {scope : Scope} (htree : IsTree scope.chains) (closed : List Chain)
    (links : List (Chain × Chain)) : IsTree (links.foldl (share closed) scope).chains := by
  induction links generalizing scope with
  | nil => exact htree
  | cons link links ih =>
    refine ih ?_
    unfold share
    split
    · exact htree.enter_absorb (htree.below _) closed
    · exact htree

/-- Below a closed chain an alias changes nothing unless its own chain goes on from there. -/
theorem mem_share_of_closed {closed : List Chain} {scope : Scope} {link : Chain × Chain}
    {path member : Chain} (hpath : path ∈ closed) (hlink : ¬path <+: link.1) :
    path ++ member ∈ (share closed scope link).chains ↔ path ++ member ∈ scope.chains := by
  rw [mem_share]
  refine ⟨?_, Or.inl⟩
  rintro (hold | ⟨_, _, hpart | ⟨copied, _, hopen, hchain⟩⟩)
  · exact hold
  · exact absurd ((List.prefix_append path member).trans hpart) hlink
  · -- The copy would have to pass through the closed chain.
    have hthrough : path <+: link.1 ++ copied := hchain ▸ List.prefix_append path member
    rcases prefix_append_iff.mp hthrough with hwithin | ⟨front, hne, hfront, rfl⟩
    · exact absurd hwithin hlink
    · rw [isSealed_iff.mpr ⟨front, hne, hfront, hpath⟩] at hopen
      cases hopen

/-- Below a closed chain aliases of other chains change nothing. -/
theorem mem_foldl_share_of_closed {closed : List Chain} {scope : Scope}
    {links : List (Chain × Chain)} {path member : Chain} (hpath : path ∈ closed)
    (hlinks : ∀ link ∈ links, ¬path <+: link.1) :
    path ++ member ∈ (links.foldl (share closed) scope).chains ↔
      path ++ member ∈ scope.chains := by
  induction links generalizing scope with
  | nil => rfl
  | cons link links ih =>
    obtain ⟨hlink, hlinks⟩ := List.forall_mem_cons.mp hlinks
    rw [List.foldl_cons, ih hlinks, mem_share_of_closed hpath hlink]

/-! ## The aliases of a walk -/

namespace Walk

/-- The aliases behind one more binding. -/
theorem aliases_cons {binding : Binding} {later : List Binding}
    (hopen : ¬isSealed (through later).closed [] binding.path = true) :
    (through (binding :: later)).aliases =
      (binding.value.target.map fun target => (binding.path, target)).toList ++
        (through later).aliases := by
  rw [through_cons, step, if_neg hopen]
  cases binding.value.target <;> rfl

/-- Bindings in front add aliases in front, and none that a later binding hides. -/
theorem aliases_append {earlier later : List Binding}
    (hpaths : ∀ binding ∈ earlier ++ later, binding.path ≠ []) :
    ∃ front, (through (earlier ++ later)).aliases = front ++ (through later).aliases ∧
      ∀ link ∈ front, ∀ other ∈ later, ¬other.path <+: link.1 := by
  induction earlier with
  | nil => exact ⟨[], rfl, nofun⟩
  | cons binding earlier ih =>
    have hbehind := fun other hother => hpaths other (List.mem_cons_of_mem _ hother)
    obtain ⟨front, hfront, hlinks⟩ := ih hbehind
    by_cases hsealed : isSealed (through (earlier ++ later)).closed [] binding.path = true
    · refine ⟨front, ?_, hlinks⟩
      rw [List.cons_append, through_cons, step_of_isSealed hsealed, hfront]
    · refine ⟨(binding.value.target.map fun target => (binding.path, target)).toList ++ front, ?_,
        fun link hlink => ?_⟩
      · rw [List.cons_append, aliases_cons hsealed, hfront, List.append_assoc]
      · rcases List.mem_append.mp hlink with hlink | hlink
        · obtain ⟨target, _, rfl⟩ := Option.map_eq_some_iff.mp (Option.mem_toList.mp hlink)
          intro other hother habove
          exact hsealed ((isSealed_through hbehind _).mpr
            ⟨other, List.mem_append_right _ hother, habove⟩)
        · exact hlinks link hlink

/-- A visible alias is a binding that no later one hides. -/
theorem exists_of_mem_aliases {bindings : List Binding} {link : Chain × Chain}
    (hpaths : ∀ binding ∈ bindings, binding.path ≠ [])
    (hlink : link ∈ (through bindings).aliases) :
    ∃ earlier binding later, bindings = earlier ++ binding :: later ∧ binding.path = link.1 ∧
      binding.value.target = some link.2 ∧ ∀ other ∈ later, ¬other.path <+: binding.path := by
  induction bindings with
  | nil => cases hlink
  | cons binding later ih =>
    have hbehind := fun other hother => hpaths other (List.mem_cons_of_mem _ hother)
    by_cases hhere : link ∈ (through later).aliases
    · obtain ⟨earlier, other, behind, rfl, hother⟩ := ih hbehind hhere
      exact ⟨binding :: earlier, other, behind, rfl, hother⟩
    · by_cases hsealed : isSealed (through later).closed [] binding.path = true
      · rw [through_cons, step_of_isSealed hsealed] at hlink
        exact absurd hlink hhere
      · rw [aliases_cons hsealed] at hlink
        have hnew := (List.mem_append.mp hlink).resolve_right hhere
        obtain ⟨target, htarget, rfl⟩ := Option.map_eq_some_iff.mp (Option.mem_toList.mp hnew)
        refine ⟨[], binding, later, rfl, rfl, htarget, fun other hother habove => ?_⟩
        exact hsealed ((isSealed_through hbehind _).mpr ⟨other, hother, habove⟩)

/-- What is closed stays closed as the walk goes on. -/
theorem mem_closed_append {earlier later : List Binding} {path : Chain}
    (hpath : path ∈ (through later).closed) : path ∈ (through (earlier ++ later)).closed := by
  induction earlier with
  | nil => exact hpath
  | cons binding earlier ih =>
    rw [List.cons_append, through_cons]
    by_cases hsealed : isSealed (through (earlier ++ later)).closed [] binding.path = true
    · rwa [step_of_isSealed hsealed]
    · rw [closed_step hsealed]
      exact List.mem_cons_of_mem _ ih

/-- A binding that no later one hides closes its chain. -/
theorem path_mem_closed (earlier : List Binding) {later : List Binding} {binding : Binding}
    (hpaths : ∀ other ∈ later, other.path ≠ [])
    (hlast : ∀ other ∈ later, ¬other.path <+: binding.path) :
    binding.path ∈ (through (earlier ++ binding :: later)).closed := by
  refine mem_closed_append ?_
  have hopen : ¬isSealed (through later).closed [] binding.path = true := by
    rw [isSealed_through hpaths]
    rintro ⟨other, hother, habove⟩
    exact hlast other hother habove
  rw [through_cons, closed_step hopen]
  exact List.mem_cons_self

end Walk

/-! ## A table that is bound last -/

/-- A chain lasts through bindings if it lasts through the later ones, or through the earlier
ones and no later one deletes it. -/
theorem lasts_append {earlier later : List Binding} {chain : Chain} :
    Lasts chain (earlier ++ later) ↔ Lasts chain later ∨
      Lasts chain earlier ∧ ∀ other ∈ later, ¬other.path <+: chain := by
  induction earlier with
  | nil => simp [Lasts]
  | cons binding earlier ih =>
    simp only [List.cons_append, Lasts, ih, List.forall_mem_append]
    tauto

/-- A chain that lasts is given by a binding. -/
theorem exists_given_of_lasts {bindings : List Binding} {chain : Chain}
    (hlasts : Lasts chain bindings) : ∃ binding ∈ bindings, chain ∈ given binding := by
  induction bindings with
  | nil => cases hlasts
  | cons binding later ih =>
    rcases hlasts with hlasts | ⟨hgiven, _⟩
    · obtain ⟨other, hother, hgiven⟩ := ih hlasts
      exact ⟨other, List.mem_cons_of_mem _ hother, hgiven⟩
    · exact ⟨binding, List.mem_cons_self, hgiven⟩

/-- Below a chain that is bound, what no later binding deletes lasts if it is a member of the
value, or if a later binding creates it on the way to its path. -/
theorem lasts_below {earlier later : List Binding} {binding : Binding} {member : Chain}
    (hne : member ≠ []) (hkept : ∀ other ∈ later, ¬other.path <+: binding.path ++ member) :
    Lasts (binding.path ++ member) (earlier ++ binding :: later) ↔
      member ∈ binding.value.members ∨ ∃ other ∈ later, binding.path ++ member <+: other.path := by
  have hlater : Lasts (binding.path ++ member) later ↔
      ∃ other ∈ later, binding.path ++ member <+: other.path := by
    constructor
    · intro hlasts
      obtain ⟨other, hother, ⟨_, hpart⟩ | ⟨rest, _, heq⟩⟩ := exists_given_of_lasts hlasts
      · exact ⟨other, hother, hpart⟩
      · exact absurd (heq ▸ List.prefix_append _ _) (hkept other hother)
    · rintro ⟨other, hother, hpart⟩
      exact lasts_of_prefix_path hother (by simp [hne]) hpart hkept
  have hgiven : binding.path ++ member ∈ given binding ↔ member ∈ binding.value.members := by
    constructor
    · rintro (⟨_, hpart⟩ | ⟨rest, hrest, heq⟩)
      · exact absurd hpart (not_append_within hne)
      · rwa [← List.append_cancel_left heq]
    · exact fun hmember => Or.inr ⟨member, hmember, rfl⟩
  -- What earlier bindings gave is deleted by the binding itself.
  rw [lasts_append, Lasts, hlater, hgiven]
  constructor
  · rintro ((hpart | ⟨hmember, _⟩) | ⟨_, hfree⟩)
    · exact Or.inr hpart
    · exact Or.inl hmember
    · exact absurd (List.prefix_append _ _) (hfree binding List.mem_cons_self)
  · rintro (hmember | hpart)
    · exact Or.inl (Or.inr ⟨hmember, hkept⟩)
    · exact Or.inl (Or.inl hpart)

/-- No visible alias goes on from a chain that is bound last: the later aliases do not, and the
earlier ones are hidden. -/
theorem Walk.not_prefix_alias {earlier later : List Binding} {binding : Binding}
    (hpaths : ∀ other ∈ earlier ++ binding :: later, other.path ≠ [])
    (hplain : binding.value.target = none)
    (hnone : ∀ other ∈ later, ¬binding.path <+: other.path) :
    ∀ link ∈ (through (earlier ++ binding :: later)).aliases, ¬binding.path <+: link.1 := by
  intro link hlink
  obtain ⟨front, hfront, hhidden⟩ := aliases_append hpaths
  rw [hfront, through_cons, aliases_step hplain] at hlink
  rcases List.mem_append.mp hlink with hlink | hlink
  · exact hhidden link hlink binding List.mem_cons_self
  · have hbehind : ∀ other ∈ later, other.path ≠ [] := fun other hother =>
      hpaths other (List.mem_append_right _ (List.mem_cons_of_mem _ hother))
    obtain ⟨_, other, _, rfl, hother, _⟩ := exists_of_mem_aliases hbehind hlink
    exact hother ▸ hnone other (List.mem_append_right _ List.mem_cons_self)

/-- A table that is bound last keeps exactly the members of its value, however many aliases
copy the tables around it or in it, and in whatever order: nothing that an earlier binding gave
to its chain comes back. -/
theorem members_below_last_binding {earlier later : List Binding} {binding : Binding}
    (hpaths : ∀ other ∈ earlier ++ binding :: later, other.path ≠ [])
    (hplain : binding.value.target = none)
    (hlast : ∀ other ∈ later, ¬other.path <+: binding.path)
    (hnone : ∀ other ∈ later, ¬binding.path <+: other.path) :
    (ofBindings (earlier ++ binding :: later)).contains binding.path = true ∧
      ∀ member, member ∈ (ofBindings (earlier ++ binding :: later)).below binding.path ↔
        member ≠ [] ∧ member ∈ binding.value.members := by
  have hpath := hpaths binding (List.mem_append_right _ List.mem_cons_self)
  have hclosed := Walk.path_mem_closed earlier
    (fun other hother => hpaths other (List.mem_append_right _ (List.mem_cons_of_mem _ hother)))
    hlast
  have hwalk : ∀ member,
      binding.path ++ member ∈ (ofBindings (earlier ++ binding :: later)).chains ↔
        Lasts (binding.path ++ member) (earlier ++ binding :: later) := by
    intro member
    rw [ofBindings,
      mem_foldl_share_of_closed hclosed (Walk.not_prefix_alias hpaths hplain hnone),
      Walk.mem_through hpaths]
  constructor
  · have hgiven : Lasts (binding.path ++ []) (earlier ++ binding :: later) := by
      rw [List.append_nil]
      exact lasts_append.mpr (Or.inl (Or.inr ⟨Or.inl ⟨hpath, List.prefix_rfl⟩, hlast⟩))
    have hmem := (hwalk []).mpr hgiven
    rw [List.append_nil] at hmem
    simp [contains, hmem]
  · intro member
    have hkept : ∀ other ∈ later, ¬other.path <+: binding.path ++ member := by
      intro other hother habove
      rcases prefix_append_iff.mp habove with hwithin | ⟨more, _, _, heq⟩
      · exact hlast other hother hwithin
      · exact hnone other hother (heq ▸ List.prefix_append _ _)
    rw [mem_below, hwalk]
    refine and_congr_right fun hne => (lasts_below hne hkept).trans (or_iff_left ?_)
    rintro ⟨other, hother, hpart⟩
    exact hnone other hother ((List.prefix_append _ _).trans hpart)

/-- A text in which one alias copies the table around `s.x` and another lies in it again. -/
def sharedText : Text := "t = {x = {old = 1}}
s = t
s.x.old = 2
s.x = {new = 3}
t.y = s
".toList

/-- The alias `s` copies the table `t` with what it knows about `x`, yet `s.x` has only the
member of its last value. -/
theorem members_below_last_binding_shared :
    Binding.collect (Word.before sharedText 62) =
        (Binding.collect (Word.before sharedText 62)).take 3 ++
          ⟨["s".toList, "x".toList], ⟨[["new".toList]], none⟩⟩ ::
            [⟨["t".toList, "y".toList], ⟨[], some ["s".toList]⟩⟩] ∧
      ["t".toList, "x".toList, "old".toList] ∈ (visible sharedText 62).chains ∧
      ∀ member, member ∈ (visible sharedText 62).below ["s".toList, "x".toList] ↔
        member ≠ [] ∧ member ∈ [["new".toList]] := by
  have hcollect : Binding.collect (Word.before sharedText 62) =
      (Binding.collect (Word.before sharedText 62)).take 3 ++
        ⟨["s".toList, "x".toList], ⟨[["new".toList]], none⟩⟩ ::
          [⟨["t".toList, "y".toList], ⟨[], some ["s".toList]⟩⟩] := by decide +kernel
  have hpaths : ∀ other ∈ Binding.collect (Word.before sharedText 62), other.path ≠ [] :=
    fun _ => Binding.path_ne_nil_of_mem_collect
  refine ⟨hcollect, by decide +kernel, ?_⟩
  rw [hcollect] at hpaths
  rw [visible, hcollect]
  exact (members_below_last_binding hpaths rfl (by decide) (by decide)).2

end LuaAssist.Scope

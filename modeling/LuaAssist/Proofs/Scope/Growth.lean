import LuaAssist.Proofs.Scope.Sharing
import Mathlib.Algebra.Group.Nat.Defs

/-!
# How large aliases make a scope

An alias copies what is known below its target when its turn comes, so it can double the number
of names at most. Copies of copies do double it each time. Where no alias copies what an earlier
one has brought, each adds at most what was known before all of them.
-/

namespace LuaAssist.Scope

variable {scope : Scope} {base chain : Chain}

/-! ## Adding chains -/

/-- Of some chains those that are known already are not added. -/
theorem foldl_add_of_mem {added : List Chain} (hknown : ∀ chain ∈ added, chain ∈ scope.chains) :
    added.foldl add scope = scope := by
  induction added with
  | nil => rfl
  | cons first rest ih =>
    obtain ⟨hfirst, hrest⟩ := List.forall_mem_cons.mp hknown
    rw [List.foldl_cons, add_of_contains (by simp [contains, hfirst]), ih hrest]

/-- Adding chains makes a scope longer by their number at most. -/
theorem length_foldl_add_le (scope : Scope) (added : List Chain) :
    (added.foldl add scope).chains.length ≤ scope.chains.length + added.length := by
  induction added generalizing scope with
  | nil => exact Nat.le_refl _
  | cons first rest ih =>
    have hfirst : (scope.add first).chains.length ≤ scope.chains.length + 1 := by
      unfold add
      split
      · exact Nat.le_succ _
      · exact (List.length_append).le
    have hrest := ih (scope.add first)
    rw [List.foldl_cons, List.length_cons]
    omega

/-- Adding chains that are new makes a scope longer by their number. -/
theorem foldl_add_of_new (scope : Scope) {added : List Chain} (hnodup : added.Nodup)
    (hroot : [] ∉ added) (hnew : ∀ chain ∈ added, chain ∉ scope.chains) :
    (added.foldl add scope).chains = scope.chains ++ added := by
  induction added generalizing scope with
  | nil => exact (List.append_nil _).symm
  | cons first rest ih =>
    obtain ⟨hfirst, hrest⟩ := List.forall_mem_cons.mp hnew
    obtain ⟨hother, hnodup⟩ := List.nodup_cons.mp hnodup
    have hadd : scope.add first = ⟨scope.chains ++ [first]⟩ := by
      refine if_neg fun hknown => ?_
      simp only [contains, Bool.or_eq_true, decide_eq_true_eq, List.contains_eq_mem] at hknown
      exact hknown.elim (fun hnil => hroot (hnil ▸ List.mem_cons_self)) hfirst
    rw [List.foldl_cons, hadd, ih _ hnodup fun hnil => hroot (List.mem_cons_of_mem _ hnil),
      List.append_assoc]
    · rfl
    · intro chain hchain hmem
      rcases List.mem_append.mp hmem with hold | hlast
      · exact hrest chain hchain hold
      · exact hother (List.mem_singleton.mp hlast ▸ hchain)

/-- Chains that do not go on from a base change nothing below it. -/
theorem below_foldl_add {added : List Chain} (hapart : ∀ chain ∈ added, ¬base <+: chain) :
    (added.foldl add scope).below base = scope.below base := by
  induction added generalizing scope with
  | nil => rfl
  | cons first rest ih =>
    obtain ⟨hfirst, hrest⟩ := List.forall_mem_cons.mp hapart
    rw [List.foldl_cons, ih hrest]
    unfold add
    split
    · rfl
    · have hnone : after? base first = none := by
        rw [after?, if_neg]
        simp [List.isPrefixOf_iff_prefix, hfirst]
      simp [below, List.filterMap_append, hnone]

/-! ## One alias -/

/-- All that an alias's chain passes through is known. -/
def Entered (scope : Scope) (link : Chain × Chain) : Prop :=
  ∀ front ∈ fronts link.1, front ∈ scope.chains

/-- Aliases take no chain back. -/
theorem Entered.share {closed : List Chain} {link other : Chain × Chain}
    (hentered : scope.Entered link) : (share closed scope other).Entered link :=
  fun front hfront => mem_share.mpr (Or.inl (hentered front hfront))

/-- An alias adds at most as many chains as are known below its target. -/
theorem length_share_le (closed : List Chain) {link : Chain × Chain}
    (hentered : scope.Entered link) :
    (share closed scope link).chains.length ≤
      scope.chains.length + (scope.below link.2).length := by
  unfold share
  split
  · rw [enter, foldl_add_of_mem hentered, absorb_eq_foldl_add]
    refine (length_foldl_add_le _ _).trans (Nat.add_le_add_left ?_ _)
    rw [List.length_map]
    exact List.length_filter_le _ _
  · exact Nat.le_add_right _ _

/-- There are not more chains below a base than there are chains. -/
theorem length_below_le (scope : Scope) (base : Chain) :
    (scope.below base).length ≤ scope.chains.length :=
  List.length_filterMap_le _ _

/-- Neither chain goes on from the other. -/
def Apart (chain other : Chain) : Prop := ¬chain <+: other ∧ ¬other <+: chain

instance (chain other : Chain) : Decidable (Apart chain other) :=
  inferInstanceAs (Decidable (_ ∧ _))

/-- An alias changes nothing below a chain that is apart from its own. -/
theorem below_share {closed : List Chain} {link : Chain × Chain} (hapart : Apart link.1 base) :
    (share closed scope link).below base = scope.below base := by
  unfold share
  split
  · rw [absorb_eq_foldl_add, below_foldl_add, enter, below_foldl_add]
    · intro front hfront habove
      exact hapart.2 (habove.trans (mem_fronts.mp hfront).2)
    · intro chain hchain habove
      obtain ⟨member, _, rfl⟩ := List.mem_map.mp hchain
      rcases List.prefix_or_prefix_of_prefix habove (List.prefix_append link.1 member) with
        hbase | hlink
      · exact hapart.2 hbase
      · exact hapart.1 hlink
  · rfl

/-! ## All aliases -/

/-- Aliases double the number of chains at most once each. -/
theorem length_foldl_share_le {closed : List Chain} {links : List (Chain × Chain)}
    (hentered : ∀ link ∈ links, scope.Entered link) :
    (links.foldl (share closed) scope).chains.length ≤ 2 ^ links.length * scope.chains.length := by
  induction links generalizing scope with
  | nil => simp
  | cons link links ih =>
    obtain ⟨hlink, hlinks⟩ := List.forall_mem_cons.mp hentered
    calc ((link :: links).foldl (share closed) scope).chains.length
        ≤ 2 ^ links.length * (share closed scope link).chains.length :=
          ih fun other hother => (hlinks other hother).share
      _ ≤ 2 ^ links.length * (2 * scope.chains.length) := by
          have hshare := length_share_le closed hlink
          have hbelow := length_below_le scope link.2
          exact Nat.mul_le_mul_left _ (by omega)
      _ = 2 ^ (link :: links).length * scope.chains.length := by
          rw [List.length_cons, Nat.pow_succ, Nat.mul_assoc]

/-- Aliases whose targets are apart from the aliases in front of them each add at most what was
known below their target before. -/
theorem length_foldl_share_le_of_apart (closed : List Chain) {links : List (Chain × Chain)}
    {bound : Nat} (hentered : ∀ link ∈ links, scope.Entered link)
    (hapart : links.Pairwise fun earlier later => Apart earlier.1 later.2)
    (hbelow : ∀ link ∈ links, (scope.below link.2).length ≤ bound) :
    (links.foldl (share closed) scope).chains.length ≤
      scope.chains.length + links.length * bound := by
  induction links generalizing scope with
  | nil => simp
  | cons link links ih =>
    obtain ⟨hlink, hlinks⟩ := List.forall_mem_cons.mp hentered
    obtain ⟨hfirst, hothers⟩ := List.pairwise_cons.mp hapart
    obtain ⟨hhere, hlater⟩ := List.forall_mem_cons.mp hbelow
    have hshare := length_share_le closed hlink
    have hstill : ∀ other ∈ links, ((share closed scope link).below other.2).length ≤ bound :=
      fun other hother => by
        rw [below_share (hfirst other hother)]
        exact hlater other hother
    have hrest := ih (fun other hother => (hlinks other hother).share) hothers hstill
    rw [List.foldl_cons, List.length_cons, Nat.succ_mul]
    omega

/-- The chain of a visible alias has been entered by the walk. -/
theorem Walk.entered_of_mem_aliases {bindings : List Binding} {link : Chain × Chain}
    (hlink : link ∈ (through bindings).aliases) : (through bindings).scope.Entered link := by
  induction bindings with
  | nil => cases hlink
  | cons binding later ih =>
    by_cases hsealed : isSealed (through later).closed [] binding.path = true
    · rw [through_cons, step_of_isSealed hsealed] at hlink ⊢
      exact ih hlink
    · intro front hfront
      rw [through_cons, scope_step hsealed, mem_absorb, mem_enter]
      rw [aliases_cons hsealed] at hlink
      rcases List.mem_append.mp hlink with hnew | hold
      · obtain ⟨target, _, rfl⟩ := Option.map_eq_some_iff.mp (Option.mem_toList.mp hnew)
        exact Or.inl (Or.inr (mem_fronts.mp hfront))
      · exact Or.inl (Or.inl (ih hold front hfront))

/-! ## A table that is copied into itself

Every copy of a table into itself holds all copies that were made before, so their number is
doubled each time.
-/

/-- Each of some members of a table is an alias of the table. -/
def selfAliases (table : Text) (members : List Text) : List Binding :=
  members.map fun member => ⟨[table, member], ⟨[], some [table]⟩⟩

/-- A scope of a table and what is known below it. -/
def ofTable (table : Text) (known : List Chain) : Scope := ⟨[table] :: known.map (table :: ·)⟩

/-- Below the table of such a scope stands just what is known. -/
@[simp] theorem mem_ofTable {table : Text} {known : List Chain} {rest : Chain} :
    table :: rest ∈ (ofTable table known).chains ↔ rest = [] ∨ rest ∈ known := by
  simp [ofTable]

/-- Below the table is known what is known. -/
theorem below_ofTable {table : Text} {known : List Chain} (hroot : [] ∉ known) :
    (ofTable table known).below [table] = known := by
  have hafter : ∀ chain ∈ known, after? [table] (table :: chain) = some chain := by
    intro chain hchain
    have hpos : chain ≠ [] := fun hnil => hroot (hnil ▸ hchain)
    simp [after?, List.length_pos_iff.mpr hpos]
  have hself : after? [table] [table] = none := by simp [after?]
  rw [below, ofTable, List.filterMap_cons_none hself, List.filterMap_map]
  exact (List.filterMap_congr hafter).trans List.filterMap_some

/-- What is known below a table when some of its members are still to become copies of it: these
members are known, and nothing is known below them yet. -/
structure Uncopied (known : List Chain) (members : List Text) : Prop where
  nodup : known.Nodup
  root : [] ∉ known
  entered : ∀ member ∈ members, [member] ∈ known
  plain : ∀ member ∈ members, ∀ rest, member :: rest ∈ known → rest = []

/-- The other members are uncopied behind the first. -/
theorem Uncopied.next {known : List Chain} {member : Text} {others : List Text}
    (huncopied : Uncopied known (member :: others)) (hnew : member ∉ others) :
    Uncopied (known ++ known.map (member :: ·)) others where
  nodup := by
    refine List.Nodup.append huncopied.nodup
      (huncopied.nodup.map fun _ _ heq => (List.cons.inj heq).2) ?_
    intro chain hchain hcopy
    obtain ⟨rest, hrest, rfl⟩ := List.mem_map.mp hcopy
    have hnil := huncopied.plain member List.mem_cons_self rest hchain
    exact huncopied.root (hnil ▸ hrest)
  root := by simp [huncopied.root]
  entered other hother :=
    List.mem_append_left _ (huncopied.entered other (List.mem_cons_of_mem _ hother))
  plain other hother rest hrest := by
    rcases List.mem_append.mp hrest with hold | hcopy
    · exact huncopied.plain other (List.mem_cons_of_mem _ hother) rest hold
    · obtain ⟨_, _, heq⟩ := List.mem_map.mp hcopy
      exact absurd ((List.cons.inj heq).1 ▸ hother) hnew

/-- A member of a table becomes a copy of all that is known below the table. -/
theorem share_ofTable {closed : List Chain} {table member : Text} {known : List Chain}
    {others : List Text} (hclosed : ∀ path ∈ closed, path.length ≤ 2)
    (huncopied : Uncopied known (member :: others)) :
    share closed (ofTable table known) ([table, member], [table]) =
      ofTable table (known ++ known.map (member :: ·)) := by
  have hcontains : (ofTable table known).contains [table] = true := by simp [contains]
  have hentered : (ofTable table known).enter [table, member] = ofTable table known := by
    refine foldl_add_of_mem fun front hfront => ?_
    simp only [fronts, List.map_cons, List.map_nil, List.mem_cons, List.not_mem_nil,
      or_false] at hfront
    rcases hfront with rfl | rfl
    · exact mem_ofTable.mpr (Or.inl rfl)
    · exact mem_ofTable.mpr (Or.inr (huncopied.entered member List.mem_cons_self))
  -- What is closed has two names, so no copied chain is.
  have hopen : ∀ chain ∈ known, (!isSealed closed [table, member] chain) = true := by
    intro chain _
    rw [Bool.not_eq_true', Bool.eq_false_iff]
    intro hsealed
    obtain ⟨front, hne, _, hmem⟩ := isSealed_iff.mp hsealed
    have hlength := hclosed _ hmem
    have hpos := List.length_pos_of_ne_nil hne
    rw [List.length_append, List.length_cons, List.length_singleton] at hlength
    omega
  rw [share, if_pos hcontains, hentered, absorb_eq_foldl_add, below_ofTable huncopied.root,
    List.filter_eq_self.mpr hopen]
  have hnodup : (known.map ([table, member] ++ ·)).Nodup :=
    huncopied.nodup.map fun _ _ heq => List.append_cancel_left heq
  have hnew : ∀ chain ∈ known.map ([table, member] ++ ·),
      chain ∉ (ofTable table known).chains := by
    intro chain hchain hold
    obtain ⟨rest, hrest, rfl⟩ := List.mem_map.mp hchain
    rcases mem_ofTable.mp hold with hnil | hold
    · cases hnil
    · have hnil := huncopied.plain member List.mem_cons_self rest hold
      exact huncopied.root (hnil ▸ hrest)
  have hadded := foldl_add_of_new (ofTable table known) hnodup (by simp) hnew
  calc (known.map ([table, member] ++ ·)).foldl add (ofTable table known)
      = ⟨(ofTable table known).chains ++ known.map ([table, member] ++ ·)⟩ :=
        congrArg Scope.mk hadded
    _ = ofTable table (known ++ known.map (member :: ·)) := by simp [ofTable, Function.comp_def]

/-- Each copy doubles what is known below the table. -/
theorem length_foldl_share_ofTable {closed : List Chain} (table : Text) {members : List Text}
    {known : List Chain} (hclosed : ∀ path ∈ closed, path.length ≤ 2)
    (hnodup : members.Nodup) (huncopied : Uncopied known members) :
    ((members.map fun name => ([table, name], [table])).foldl (share closed)
        (ofTable table known)).chains.length = known.length * 2 ^ members.length + 1 := by
  induction members generalizing known with
  | nil => simp [ofTable]
  | cons member others ih =>
    obtain ⟨hnew, hothers⟩ := List.nodup_cons.mp hnodup
    rw [List.map_cons, List.foldl_cons, share_ofTable hclosed huncopied,
      ih hothers (huncopied.next hnew), List.length_append, List.length_map, List.length_cons,
      Nat.pow_succ, ← Nat.mul_two, Nat.mul_assoc, Nat.mul_comm 2]

/-- The walk finds the table with its members, and every member is an alias. -/
theorem Walk.through_selfAliases (table : Text) {member : Text} {others : List Text}
    (hnodup : (member :: others).Nodup) :
    through (selfAliases table (member :: others)) = {
      scope := ofTable table ((member :: others).reverse.map fun name => [name])
      closed := (member :: others).map fun name => [table, name]
      aliases := (member :: others).map fun name => ([table, name], [table]) } := by
  induction others generalizing member with
  | nil => simp [selfAliases, through, step, start, isSealed, enter, fronts, absorb, add,
      contains, empty, ofTable]
  | cons next others ih =>
    obtain ⟨hnew, hrest⟩ := List.nodup_cons.mp hnodup
    obtain ⟨hnext, hothers⟩ := List.ne_and_not_mem_of_not_mem_cons hnew
    rw [selfAliases, List.map_cons, through_cons, ← selfAliases, ih hrest]
    simp [step, isSealed, enter, fronts, absorb, add, contains, ofTable, hnext, hothers]

/-- A table with some members that are all aliases of it is copied that many times, and doubled
by each copy. -/
theorem length_ofBindings_selfAliases (table : Text) {member : Text} {others : List Text}
    (hnodup : (member :: others).Nodup) :
    (ofBindings (selfAliases table (member :: others))).chains.length =
      (others.length + 1) * 2 ^ (others.length + 1) + 1 := by
  rw [ofBindings, Walk.through_selfAliases table hnodup]
  have huncopied : Uncopied ((member :: others).reverse.map fun name => [name])
      (member :: others) := {
    nodup := (List.nodup_reverse.mpr hnodup).map List.singleton_injective
    root := by simp
    entered := fun name hname => List.mem_map_of_mem (List.mem_reverse.mpr hname)
    plain := by
      intro name _ rest hrest
      obtain ⟨_, _, heq⟩ := List.mem_map.mp hrest
      exact (List.cons.inj heq).2.symm }
  have hclosed : ∀ path ∈ (member :: others).map fun name => [table, name], path.length ≤ 2 := by
    intro path hpath
    obtain ⟨name, _, rfl⟩ := List.mem_map.mp hpath
    exact Nat.le_refl 2
  have hlength := length_foldl_share_ofTable table hclosed hnodup huncopied
  rwa [List.length_map, List.length_reverse, List.length_cons] at hlength

/-! ## The bounds -/

/-- Aliases double the number of names at most once each. Where no alias's target lies on the way
to an earlier alias, or below one, each adds at most as many names as there were before all
aliases. In general only the first bound holds: the number can grow exponentially. -/
theorem length_ofBindings_le :
    (∀ bindings : List Binding,
      (ofBindings bindings).chains.length ≤
          2 ^ (Walk.through bindings).aliases.length *
            (Walk.through bindings).scope.chains.length ∧
        ((Walk.through bindings).aliases.Pairwise
            (fun earlier later => Apart earlier.1 later.2) →
          (ofBindings bindings).chains.length ≤
            ((Walk.through bindings).aliases.length + 1) *
              (Walk.through bindings).scope.chains.length)) ∧
      ∀ count, ∃ bindings : List Binding,
        (Walk.through bindings).aliases.length = count + 1 ∧
          (Walk.through bindings).scope.chains.length = count + 2 ∧
            (ofBindings bindings).chains.length = (count + 1) * 2 ^ (count + 1) + 1 := by
  constructor
  · intro bindings
    have hentered : ∀ link ∈ (Walk.through bindings).aliases,
        (Walk.through bindings).scope.Entered link := fun _ => Walk.entered_of_mem_aliases
    refine ⟨length_foldl_share_le hentered, fun hapart => ?_⟩
    have hlength := length_foldl_share_le_of_apart (Walk.through bindings).closed hentered hapart
      fun link _ => length_below_le _ link.2
    rwa [Nat.succ_mul, Nat.add_comm]
  · intro count
    obtain ⟨member, others, hlength, hnodup⟩ : ∃ (member : Text) (others : List Text),
        others.length = count ∧ (member :: others).Nodup := by
      refine ⟨['x'], (List.range count).map fun size => 'x' :: List.replicate (size + 1) 'x',
        by simp, List.nodup_cons.mpr ⟨by simp, List.nodup_range.map fun _ _ heq => ?_⟩⟩
      simpa using congrArg List.length heq
    refine ⟨selfAliases "t".toList (member :: others), ?_, ?_, ?_⟩
    · simp [Walk.through_selfAliases _ hnodup, hlength]
    · simp [Walk.through_selfAliases _ hnodup, ofTable, hlength]
    · rw [length_ofBindings_selfAliases _ hnodup, hlength]

/-- Two names that share one table, which neither of them lies in. -/
def twoSharesText : Text := "t = {x = 1}
s = t
u = t
".toList

/-- Both aliases get the one member of the table, as the tighter of the two bounds allows. -/
theorem length_ofBindings_le_twoShares :
    (visible twoSharesText 24).chains =
        [["u"], ["s"], ["t"], ["t", "x"], ["s", "x"], ["u", "x"]].map (·.map String.toList) ∧
      (visible twoSharesText 24).chains.length ≤
        ((Walk.through (Binding.collect (Word.before twoSharesText 24))).aliases.length + 1) *
          (Walk.through (Binding.collect (Word.before twoSharesText 24))).scope.chains.length :=
  ⟨by decide +kernel, ((length_ofBindings_le.1 _).2 (by decide +kernel))⟩

/-- Three members of a table that are all aliases of it. -/
def threeCopiesText : Text := "t.a = t
t.b = t
t.c = t
".toList

/-- Three aliases make 25 names of 4, which is more than one copy each of the names that were
there before them, whether the root is counted or not. -/
theorem length_ofBindings_threeCopies :
    (Walk.through (Binding.collect (Word.before threeCopiesText 24))).aliases.length = 3 ∧
      (Walk.through (Binding.collect (Word.before threeCopiesText 24))).scope.chains.length = 4 ∧
        (visible threeCopiesText 24).chains.length = 25 ∧
          ¬(visible threeCopiesText 24).chains.length ≤ (3 + 1) * 4 ∧
            ¬(visible threeCopiesText 24).chains.length + 1 ≤ (3 + 1) * (4 + 1) := by
  decide +kernel

end LuaAssist.Scope

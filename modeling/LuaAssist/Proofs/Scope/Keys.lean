import LuaAssist.Proofs.Scope.Assigned
import LuaAssist.Proofs.Scope.Shadowing
import LuaAssist.Proofs.Scope.Statements

/-!
# The keys of constructors

A path of keys leads into a constructor, from one constructor to another that is written in it.
Where a declaration binds a name to a constructor in which no key comes twice, the members of the
name and of every path into the constructor are the keys that are written there.
-/

namespace LuaAssist

/-! ## A name that is bound to a table -/

namespace Scope

/-- A name that is bound to a table has the members of the table below it. -/
theorem ofBindings_table (name : Text) {members : List Chain} (hnodup : members.Nodup)
    (hmembers : ∀ member ∈ members, member ≠ []) :
    ofBindings [⟨[name], ⟨members, none⟩⟩] = ⟨[name] :: members.map (name :: ·)⟩ := by
  have hchains : ([name] :: members.map (name :: ·)).Nodup := by
    refine List.nodup_cons.mpr ⟨fun hmem => ?_, hnodup.map (List.cons_injective)⟩
    obtain ⟨member, hmember, heq⟩ := List.mem_map.mp hmem
    exact hmembers member hmember (List.cons.inj heq).2
  have hne : ∀ chain ∈ [name] :: members.map (name :: ·), chain ≠ [] := by simp
  calc ofBindings [⟨[name], ⟨members, none⟩⟩]
      = (empty.enter [name]).absorb [name] members [] := rfl
    _ = ([name] :: members.map (name :: ·)).foldl add empty := by
      rw [absorb_singleton, enter_singleton, List.foldl_cons]
    _ = ⟨[name] :: members.map (name :: ·)⟩ := by
      rw [foldl_add_empty hne, eraseDups_of_nodup hchains]

end Scope

namespace Program

/-! ## Paths into constructors -/

/-- The names of the members that fields give, in their order. -/
def Fields.keys : Fields → List Text
  | .none => []
  | .last key _ => key.name?.toList
  | .more key _ _ rest => key.name?.toList ++ rest.keys

/-- The fields of an expression that is a constructor. -/
def Expression.fields? : Expression → Option Fields
  | .table fields => some fields
  | _ => none

/-- The constructor that is the value of a key. -/
def Fields.below? (name : Text) : Fields → Option Fields
  | .none => .none
  | .last key value => if key.name? = some name then value.fields? else .none
  | .more key value _ rest => if key.name? = some name then value.fields? else rest.below? name

/-- The constructor to which a path of keys leads. -/
def Fields.at? : Chain → Fields → Option Fields
  | [], fields => some fields
  | name :: path, fields => (fields.below? name).bind (Fields.at? path)

mutual

/-- No constructor in the expression gives a key twice. -/
def Expression.DistinctKeys : Expression → Prop
  | .table fields => fields.DistinctKeys
  | .number _ | .text _ | .constant _ | .chain _ | .call _ _ => True

/-- The keys of the fields are distinct, and so they are in every constructor among the values. -/
def Fields.DistinctKeys : Fields → Prop
  | .none => True
  | .last _ value => value.DistinctKeys
  | .more key value _ rest =>
    (∀ name ∈ key.name?, name ∉ rest.keys) ∧ value.DistinctKeys ∧ rest.DistinctKeys

end

/-- Fields with distinct keys have each key once. -/
theorem Fields.DistinctKeys.nodup_keys :
    ∀ {fields : Fields}, fields.DistinctKeys → fields.keys.Nodup
  | .none, _ => List.nodup_nil
  | .last key _, _ => by
    rw [Fields.keys]
    cases key.name? <;> simp
  | .more key _ _ rest, hdistinct => by
    rw [Fields.DistinctKeys] at hdistinct
    have hrest := Fields.DistinctKeys.nodup_keys hdistinct.2.2
    rw [Fields.keys]
    cases hname : key.name? with
    | none => exact hrest
    | some name => exact List.nodup_cons.mpr ⟨hdistinct.1 name hname, hrest⟩

variable {name : Text} {fields inner : Fields}

/-- The constructor under a key has distinct keys if the one around it has. -/
theorem Fields.DistinctKeys.below? (hdistinct : fields.DistinctKeys)
    (hbelow : fields.below? name = some inner) : inner.DistinctKeys := by
  have hvalue : ∀ value : Expression, value.DistinctKeys → value.fields? = some inner →
      inner.DistinctKeys := by
    rintro (_ | _ | _ | _ | _ | table) htable ⟨⟩
    rwa [Expression.DistinctKeys] at htable
  fun_induction Fields.below? name fields with
  | case1 => cases hbelow
  | case2 key value hkey => exact hvalue value (by rwa [Fields.DistinctKeys] at hdistinct) hbelow
  | case3 => cases hbelow
  | case4 key value separator rest hkey =>
    rw [Fields.DistinctKeys] at hdistinct
    exact hvalue value hdistinct.2.1 hbelow
  | case5 key value separator rest hkey ih =>
    rw [Fields.DistinctKeys] at hdistinct
    exact ih hdistinct.2.2 hbelow

/-- The constructor to which a path leads has distinct keys. -/
theorem Fields.DistinctKeys.at? {path : Chain} (hdistinct : fields.DistinctKeys)
    (hat : fields.at? path = some inner) : inner.DistinctKeys := by
  induction path generalizing fields with
  | nil =>
    cases hat
    exact hdistinct
  | cons name path ih =>
    obtain ⟨next, hbelow, hrest⟩ := Option.bind_eq_some_iff.mp hat
    exact ih (hdistinct.below? hbelow) hrest

/-- The chains that a field gives begin with its key. -/
theorem Key.head?_of_mem_paths {key : Key} {members : List Chain} {chain : Chain}
    (hchain : chain ∈ key.paths members) : chain.head? = key.name? := by
  unfold Key.paths at hchain
  split at hchain
  · cases hchain
  · rename_i name hname
    rw [hname]
    rcases List.mem_cons.mp hchain with rfl | hchain
    · rfl
    · obtain ⟨member, _, rfl⟩ := List.mem_map.mp hchain
      rfl

/-- The chains that fields give begin with their keys. -/
theorem Fields.exists_key_of_mem_paths {fields : Fields} {chain : Chain}
    (hchain : chain ∈ fields.paths) : ∃ name ∈ fields.keys, chain.head? = some name := by
  have hfield : ∀ (key : Key) (members : List Chain), chain ∈ key.paths members →
      ∃ name ∈ key.name?.toList, chain.head? = some name := by
    intro key members hmem
    have hhead := Key.head?_of_mem_paths hmem
    obtain ⟨first, rest, rfl⟩ := List.exists_cons_of_ne_nil (key.paths_ne_nil members chain hmem)
    exact ⟨first, by rw [← hhead]; simp, rfl⟩
  fun_induction Fields.keys fields with
  | case1 => cases hchain
  | case2 key value => exact hfield key _ hchain
  | case3 key value separator rest ih =>
    rw [Fields.paths, List.mem_append] at hchain
    rcases hchain with hchain | hchain
    · obtain ⟨name, hname, hhead⟩ := hfield key _ hchain
      exact ⟨name, List.mem_append_left _ hname, hhead⟩
    · obtain ⟨name, hname, hhead⟩ := ih hchain
      exact ⟨name, List.mem_append_right _ hname, hhead⟩

/-- A field gives distinct chains if the members of its value are distinct. -/
theorem Key.nodup_paths (key : Key) {value : Expression} (hmembers : value.members.Nodup) :
    (key.paths value.members).Nodup := by
  unfold Key.paths
  split
  · exact List.nodup_nil
  · rename_i name _
    refine List.nodup_cons.mpr ⟨fun hmem => ?_, hmembers.map List.cons_injective⟩
    obtain ⟨member, hmember, heq⟩ := List.mem_map.mp hmem
    exact value.members_ne_nil member hmember (List.cons.inj heq).2

mutual

/-- The members of an expression are distinct. -/
theorem Expression.DistinctKeys.nodup_members : ∀ {value : Expression}, value.DistinctKeys →
    value.members.Nodup
  | .number _, _ | .text _, _ | .constant _, _ | .chain _, _ | .call _ _, _ => List.nodup_nil
  | .table fields, hdistinct => by
    rw [Expression.DistinctKeys] at hdistinct
    have hpaths := Fields.DistinctKeys.nodup_paths hdistinct
    rwa [Expression.members, Scope.eraseDups_of_nodup hpaths]

/-- The chains that fields give are distinct. -/
theorem Fields.DistinctKeys.nodup_paths : ∀ {fields : Fields}, fields.DistinctKeys →
    fields.paths.Nodup
  | .none, _ => List.nodup_nil
  | .last key value, hdistinct => by
    rw [Fields.DistinctKeys] at hdistinct
    exact key.nodup_paths (Expression.DistinctKeys.nodup_members hdistinct)
  | .more key value separator rest, hdistinct => by
    rw [Fields.DistinctKeys] at hdistinct
    obtain ⟨hkey, hvalue, hrest⟩ := hdistinct
    refine List.Nodup.append (key.nodup_paths (Expression.DistinctKeys.nodup_members hvalue))
      (Fields.DistinctKeys.nodup_paths hrest) fun chain hfirst hmem => ?_
    obtain ⟨name, hname, hhead⟩ := Fields.exists_key_of_mem_paths hmem
    exact hkey name ((Key.head?_of_mem_paths hfirst).symm.trans hhead) hname

end

/-! ## What is found there -/

/-- The words of fields have the keys of the fields. -/
theorem Fields.keys_inWords (fields : Fields) : fields.inWords.keys = fields.keys := by
  fun_induction Fields.keys fields with
  | case1 => rfl
  | case2 key value => rw [Fields.inWords, Constructor.Fields.keys, key.key?_inWords]
  | case3 key value separator rest ih =>
    rw [Fields.inWords, Constructor.Fields.keys, key.key?_inWords, ih]

/-- The constructor under a key is the only one that is assigned to it. -/
theorem Fields.assigned_inWords (hdistinct : fields.DistinctKeys)
    (hbelow : fields.below? name = some inner) :
    fields.inWords.assigned name = [inner.inWords] := by
  have hvalue : ∀ value : Expression, value.fields? = some inner →
      value.inWords.fields? = some inner.inWords := by
    rintro (_ | _ | _ | _ | _ | table) ⟨⟩
    rfl
  fun_induction Fields.below? name fields with
  | case1 => cases hbelow
  | case2 key value hname =>
    rw [Fields.inWords, Constructor.Fields.assigned, key.key?_inWords, if_pos hname,
      hvalue value hbelow]
    rfl
  | case3 => cases hbelow
  | case4 key value separator rest hname =>
    rw [Fields.DistinctKeys] at hdistinct
    have hrest : name ∉ rest.inWords.keys := rest.keys_inWords ▸ hdistinct.1 name hname
    rw [Fields.inWords, Constructor.Fields.assigned, key.key?_inWords, if_pos hname,
      hvalue value hbelow, Constructor.Fields.assigned_eq_nil hrest]
    rfl
  | case5 key value separator rest hname ih =>
    rw [Fields.DistinctKeys] at hdistinct
    rw [Fields.inWords, Constructor.Fields.assigned, key.key?_inWords, if_neg hname,
      ih hdistinct.2.2 hbelow]
    rfl

/-- A path leads to no other constructor. -/
theorem Fields.reached_inWords {path : Chain} (hdistinct : fields.DistinctKeys)
    (hat : fields.at? path = some inner) : fields.inWords.reached path = [inner.inWords] := by
  induction path generalizing fields with
  | nil =>
    cases hat
    rfl
  | cons name path ih =>
    obtain ⟨next, hbelow, hrest⟩ := Option.bind_eq_some_iff.mp hat
    rw [Constructor.Fields.reached, Fields.assigned_inWords hdistinct hbelow,
      List.flatMap_singleton, ih (hdistinct.below? hbelow) hrest]

/-- The names by which the chains of fields go on from a path are the keys of the constructor to
which the path leads. -/
theorem Fields.filterMap_child? {path : Chain} (hdistinct : fields.DistinctKeys)
    (hat : fields.at? path = some inner) :
    fields.paths.filterMap (Scope.child? path) = inner.keys := by
  have htree := fields.inWords.eraseDups_filterMap_child? path
  rw [fields.paths_inWords, fields.reached_inWords hdistinct hat, List.flatMap_singleton,
    inner.keys_inWords, Scope.eraseDups_of_nodup (hdistinct.at? hat).nodup_keys,
    ← Scope.filterMap_child?_eraseDups, Scope.eraseDups_of_nodup hdistinct.nodup_paths] at htree
  exact htree

/-- A path that leads into a constructor is one of the chains that it gives. -/
theorem Fields.mem_paths_of_at? {path : Chain} (hdistinct : fields.DistinctKeys)
    (hat : fields.at? path = some inner) (hpath : path ≠ []) : path ∈ fields.paths := by
  have hinner : inner.inWords ∈ fields.inWords.reached path := by
    rw [Fields.reached_inWords hdistinct hat]
    exact List.mem_singleton_self _
  have hknown := (fields.inWords.contains_iff path).mpr
    (Constructor.Fields.leadsTo_of_mem_reached hinner)
  rw [fields.paths_inWords, Scope.contains, Bool.or_eq_true, decide_eq_true_eq,
    or_iff_right hpath, List.contains_iff_mem, List.mem_eraseDups] at hknown
  exact hknown

/-- The declaration of a name as a constructor. -/
def Statement.declareTable (name : Name) (fields : Fields) : Statement :=
  .declare ⟨name, []⟩ (some (.last (.table fields)))

/-- Where a name is declared as a constructor, the members of the name and a path into the
constructor are the keys of the constructor to which the path leads. -/
theorem members?_declareTable (name : Name) {fields inner : Fields} {path : Chain}
    (hdistinct : fields.DistinctKeys) (hat : fields.at? path = some inner) :
    (Scope.ofBindings (Statement.declareTable name fields).bindings).members?
      (name.text :: path) = some inner.keys := by
  have hnodup := hdistinct.nodup_paths
  have hbindings : (Statement.declareTable name fields).bindings =
      [⟨[name.text], ⟨fields.paths, none⟩⟩] := by
    rw [← Scope.eraseDups_of_nodup hnodup]
    rfl
  have hscope := Scope.ofBindings_table name.text hnodup fields.paths_ne_nil
  have hknown : (Scope.mk ([name.text] :: fields.paths.map (name.text :: ·))).contains
      (name.text :: path) = true := by
    cases path with
    | nil => simp [Scope.contains]
    | cons first path =>
      have hmem := Fields.mem_paths_of_at? hdistinct hat (List.cons_ne_nil _ _)
      simp [Scope.contains, hmem]
  have hkeys := Fields.filterMap_child? hdistinct hat
  rw [hbindings, hscope, Scope.members?_of_contains hknown,
    List.filterMap_cons_none (by simp), List.filterMap_map, ← hkeys]
  exact congrArg (fun test => some (fields.paths.filterMap test))
    (funext fun chain => Scope.child?_cons _ _ _)

end Program

end LuaAssist

import LuaAssist.Proofs.Scope.Constructors

/-!
# Trees of constructors

What is read from a constructor is a tree: below a key stand the keys of all constructors that are
assigned to it, wherever in the constructor they are written. The braces at its end add nothing to
this tree.
-/

namespace LuaAssist.Constructor

open Word (sign)

variable {word : Word} {rest : List Word}

/-! ## Constructors that are not closed -/

/-- A closing brace at the end is part of no key. -/
theorem fieldKey?_append_brace (word : Word) (rest : List Word) :
    fieldKey? word (rest ++ [sign "\x7d"]) = fieldKey? word rest := by
  rcases rest with _ | ⟨next, _ | ⟨close, _ | ⟨equals, behind⟩⟩⟩ <;> simp [fieldKey?]

/-- The words of a key are among the words that are left. -/
theorem le_length_of_fieldKey? {key : Text} {more : Nat}
    (hkey : fieldKey? word rest = some (key, more)) : more ≤ rest.length := by
  unfold fieldKey? at hkey
  split at hkey
  · cases hkey
  · split at hkey
    · obtain ⟨-, rfl⟩ := Prod.mk.inj (Option.some.inj hkey)
      simp
    · split at hkey
      · split at hkey
        · dsimp only at hkey
          split at hkey
          · obtain ⟨-, rfl⟩ := Prod.mk.inj (Option.some.inj hkey)
            simp
          · cases hkey
        · cases hkey
      · cases hkey

/-- A last closing brace may be missing if nothing is left behind it. -/
theorem membersFrom_unclosed (pending : Option Text) (frame : Frame) (outer : List Frame)
    (previous : Word) (words : List Word)
    (hleft : (membersFrom pending frame outer previous (words ++ [sign "\x7d"])).2 = []) :
    membersFrom pending frame outer previous words =
      membersFrom pending frame outer previous (words ++ [sign "\x7d"]) := by
  fun_induction membersFrom pending frame outer previous words with
  | case1 pending frame outer previous =>
    rw [List.nil_append, membersFrom.eq_def]
    cases outer <;> simp [membersFrom]
  | case2 pending frame outer previous word rest hopen ih =>
    have hstep : membersFrom pending frame outer previous (word :: (rest ++ [sign "\x7d"])) =
        membersFrom none (.new pending) (frame :: outer) word (rest ++ [sign "\x7d"]) := by
      rw [membersFrom.eq_def]
      simp only [hopen, if_true]
    rw [List.cons_append, hstep] at hleft ⊢
    exact ih hleft
  | case3 pending frame previous word rest hopen hclose =>
    -- Where the outermost table is closed already, the last brace would be left.
    rw [List.cons_append, membersFrom.eq_def] at hleft
    simp [hopen, hclose] at hleft
  | case4 pending frame previous word rest hopen hclose parent others ih =>
    have hstep : membersFrom pending frame (parent :: others) previous
        (word :: (rest ++ [sign "\x7d"])) =
          membersFrom none (frame.close parent) others word (rest ++ [sign "\x7d"]) := by
      rw [membersFrom.eq_def]
      simp only [hopen, hclose, if_true, Bool.false_eq_true, if_false]
    rw [List.cons_append, hstep] at hleft ⊢
    exact ih hleft
  | case5 pending frame outer previous word rest hopen hclose key more hkey ih =>
    rw [dite_eq_ite] at hkey
    have hmore : more ≤ rest.length := by
      split at hkey
      · exact le_length_of_fieldKey? hkey
      · cases hkey
    have hstep : membersFrom pending frame outer previous (word :: (rest ++ [sign "\x7d"])) =
        membersFrom (some key) (frame.touch key) outer ⟨.operator, ['=']⟩
          (rest.drop more ++ [sign "\x7d"]) := by
      rw [membersFrom.eq_def]
      simp only [hopen, hclose, fieldKey?_append_brace, hkey, Bool.false_eq_true, if_false,
        List.drop_append_of_le_length hmore]
    rw [List.cons_append, hstep] at hleft ⊢
    exact ih hleft
  | case6 pending frame outer previous word rest hopen hclose hkey ih =>
    rw [dite_eq_ite] at hkey
    have hstep : membersFrom pending frame outer previous (word :: (rest ++ [sign "\x7d"])) =
        membersFrom none frame outer word (rest ++ [sign "\x7d"]) := by
      rw [membersFrom.eq_def]
      simp only [hopen, hclose, fieldKey?_append_brace, hkey, Bool.false_eq_true, if_false]
    rw [List.cons_append, hstep] at hleft ⊢
    exact ih hleft

/-- Any number of closing braces at the end may be missing. -/
theorem read_unclosed {front : List Word} {scope : Scope} {kept braces : Nat}
    (hread : read (front ++ List.replicate braces (sign "\x7d")) = (scope, []))
    (hkept : kept ≤ braces) :
    read (front ++ List.replicate kept (sign "\x7d")) = (scope, []) := by
  induction hkept using Nat.decreasingInduction with
  | self => exact hread
  | of_succ kept _ ih =>
    rw [List.replicate_succ', ← List.append_assoc] at ih
    rw [read] at ih ⊢
    rw [membersFrom_unclosed _ _ _ _ _ (congrArg Prod.snd ih), ih]

/-! ## Trees of constructors -/

/-- The keys that fields give, in their order. -/
def Fields.keys : Fields → List Text
  | .none => []
  | .last label _ => label.key?.toList
  | .more label _ _ rest => label.key?.toList ++ rest.keys

/-- The fields of a value that is a constructor. -/
def Content.fields? : Content → Option Fields
  | .table fields => some fields
  | .atom _ | .chain _ | .call _ _ => none

/-- The constructors that are assigned directly to a key, in their order. -/
def Fields.assigned (key : Text) : Fields → List Fields
  | .none => []
  | .last label value => if label.key? = some key then value.fields?.toList else []
  | .more label value _ rest =>
    (if label.key? = some key then value.fields?.toList else []) ++ rest.assigned key

/-- The constructors to which a path of keys leads. -/
def Fields.reached : Chain → Fields → List Fields
  | [], fields => [fields]
  | key :: path, fields => (fields.assigned key).flatMap (Fields.reached path)

/-- The path leads to a key, or to the root: its last key is one of a constructor to which the path
in front of it leads. -/
def Fields.LeadsTo (fields : Fields) (path : Chain) : Prop :=
  path = [] ∨ ∃ front key, path = front ++ [key] ∧ ∃ inner ∈ fields.reached front, key ∈ inner.keys

/-- The chains of a field that are one name long are its key. -/
theorem Label.filterMap_child?_root (label : Label) (value : Content) :
    (label.paths value.members).filterMap (Scope.child? []) = label.key?.toList := by
  unfold Label.paths
  split
  · rename_i hkey
    rw [hkey]
    rfl
  · rename_i key hkey
    have hdeeper : value.members.filterMap (Scope.child? [] ∘ (key :: ·)) = [] := by
      rw [List.filterMap_eq_nil_iff]
      exact fun member hmember =>
        Scope.child?_root_of_ne_nil (value.members_ne_nil member hmember)
    rw [hkey, List.filterMap_cons_some (Scope.child?_root_singleton key), List.filterMap_map,
      hdeeper]
    rfl

/-- The chains of fields that are one name long are their keys. -/
theorem Fields.filterMap_child?_root (fields : Fields) :
    fields.paths.filterMap (Scope.child? []) = fields.keys := by
  fun_induction Fields.keys fields with
  | case1 => rfl
  | case2 label value => exact label.filterMap_child?_root value
  | case3 label value separator rest ih =>
    rw [Fields.paths, List.filterMap_append, label.filterMap_child?_root, ih]

/-- Below a key, a field with this key adds the members of its value. -/
theorem Label.filterMap_child? (label : Label) (value : Content) (key : Text) (path : Chain) :
    (label.paths value.members).filterMap (Scope.child? (key :: path)) =
      (if label.key? = some key then value.fields?.toList else []).flatMap fun inner =>
        inner.paths.eraseDups.filterMap (Scope.child? path) := by
  unfold Label.paths
  split
  · rename_i hkey
    rw [hkey, if_neg nofun]
    rfl
  · rename_i other hkey
    rw [hkey]
    by_cases hother : other = key
    · subst hother
      have hbelow : (Scope.child? (other :: path) ∘ (other :: ·)) = Scope.child? path :=
        funext fun chain => Scope.child?_cons other path chain
      have hself : Scope.child? (other :: path) [other] = none := by simp
      rw [if_pos rfl, List.filterMap_cons_none hself, List.filterMap_map, hbelow]
      cases value with
      | table fields => simp [Content.members, Content.fields?]
      | _ => rfl
    · rw [if_neg (by simpa using hother), List.flatMap_nil, List.filterMap_eq_nil_iff]
      intro chain hchain
      refine Scope.child?_of_head fun hhead => hother ?_
      rcases List.mem_cons.mp hchain with rfl | hchain
      · exact Option.some.inj hhead
      · obtain ⟨member, -, rfl⟩ := List.mem_map.mp hchain
        exact Option.some.inj hhead

/-- Below a key stand the members of all constructors that are assigned to it. -/
theorem Fields.filterMap_child?_cons (fields : Fields) (key : Text) (path : Chain) :
    fields.paths.filterMap (Scope.child? (key :: path)) =
      (fields.assigned key).flatMap fun inner =>
        inner.paths.eraseDups.filterMap (Scope.child? path) := by
  fun_induction Fields.assigned key fields with
  | case1 => rfl
  | case2 label value hkey => rw [Fields.paths, label.filterMap_child?, if_pos hkey]
  | case3 label value hkey => rw [Fields.paths, label.filterMap_child?, if_neg hkey]
  | case4 label value separator rest ih =>
    rw [Fields.paths, List.filterMap_append, label.filterMap_child?, ih, List.flatMap_append]

/-- The names by which the chains of fields go on from a path are the keys of the constructors to
which the path leads. -/
theorem Fields.eraseDups_filterMap_child? (fields : Fields) (path : Chain) :
    (fields.paths.filterMap (Scope.child? path)).eraseDups =
      ((fields.reached path).flatMap Fields.keys).eraseDups := by
  induction path generalizing fields with
  | nil => rw [fields.filterMap_child?_root, Fields.reached, List.flatMap_singleton]
  | cons key path ih =>
    -- Several constructors may be assigned to the key, and each is read without its repetitions.
    rw [fields.filterMap_child?_cons, Fields.reached, List.flatMap_assoc]
    refine Scope.eraseDups_flatMap_congr fun inner _ => ?_
    rw [Scope.eraseDups_filterMap_eraseDups, ih]

/-- The tree of a constructor knows a path if and only if the path leads to a key. -/
theorem Fields.contains_iff (fields : Fields) (path : Chain) :
    (Scope.mk fields.paths.eraseDups).contains path = true ↔ fields.LeadsTo path := by
  have hmem : ∀ front key, front ++ [key] ∈ fields.paths ↔
      ∃ inner ∈ fields.reached front, key ∈ inner.keys := by
    intro front key
    have hsame := congrArg (key ∈ ·) (fields.eraseDups_filterMap_child? front)
    simpa [List.mem_eraseDups, List.mem_filterMap, Scope.child?_eq_some_iff] using hsame
  rw [Scope.contains, LeadsTo, Bool.or_eq_true, decide_eq_true_eq, List.contains_iff_mem,
    List.mem_eraseDups]
  refine or_congr_right' fun hpath => ?_
  constructor
  · intro hknown
    obtain ⟨front, key, rfl⟩ := List.eq_nil_or_concat' path |>.resolve_left hpath
    exact ⟨front, key, rfl, (hmem front key).mp hknown⟩
  · rintro ⟨front, key, rfl, hkey⟩
    exact (hmem front key).mpr hkey

instance (fields : Fields) (path : Chain) : Decidable (fields.LeadsTo path) :=
  decidable_of_iff _ (fields.contains_iff path)

/-- No constructor is assigned to a key that is not there. -/
theorem Fields.assigned_eq_nil {fields : Fields} {key : Text} (hkey : key ∉ fields.keys) :
    fields.assigned key = [] := by
  fun_induction Fields.assigned key fields with
  | case1 => rfl
  | case2 label value hlabel =>
    rw [Fields.keys, hlabel] at hkey
    exact absurd (List.mem_singleton_self key) hkey
  | case3 => rfl
  | case4 label value separator rest ih =>
    rw [Fields.keys, List.mem_append, not_or] at hkey
    have hlabel : label.key? ≠ some key := by
      intro hlabel
      rw [hlabel] at hkey
      exact hkey.1 (List.mem_singleton_self key)
    rw [if_neg hlabel, ih hkey.2, List.append_nil]

/-- One step further from the fields that a front of the path reaches. -/
theorem Fields.reached_concat (fields : Fields) (front : Chain) (key : Text) :
    fields.reached (front ++ [key]) = (fields.reached front).flatMap (Fields.assigned key) := by
  induction front generalizing fields with
  | nil => simp [Fields.reached]
  | cons first front ih =>
    rw [List.cons_append, Fields.reached, Fields.reached, List.flatMap_assoc]
    exact List.flatMap_congr fun inner _ => ih inner

/-- A path that leads to a constructor leads to its key. -/
theorem Fields.leadsTo_of_mem_reached {fields inner : Fields} {path : Chain}
    (hinner : inner ∈ fields.reached path) : fields.LeadsTo path := by
  rcases List.eq_nil_or_concat' path with rfl | ⟨front, key, rfl⟩
  · exact Or.inl rfl
  · rw [fields.reached_concat, List.mem_flatMap] at hinner
    obtain ⟨outer, houter, hassigned⟩ := hinner
    refine Or.inr ⟨front, key, rfl, outer, houter, ?_⟩
    by_contra hkey
    rw [Fields.assigned_eq_nil hkey] at hassigned
    cases hassigned

/-- Reading a constructor gives a tree, with what stands behind the constructor left over. In this
tree a path is known if it leads to a key, and its members are the keys of all constructors to which
it leads, each once and in the order of their first appearance. Where nothing stands behind the
constructor, closing braces at its end may be missing. -/
theorem read_gives_tree (fields : Fields) : ∃ tree : Scope,
    (∀ after, read (fields.words ++ sign "\x7d" :: after) = (tree, after)) ∧
    (∀ path, fields.LeadsTo path →
      tree.members? path = some ((fields.reached path).flatMap Fields.keys).eraseDups) ∧
    (∀ path, ¬fields.LeadsTo path → tree.members? path = none) ∧
    ∀ front braces kept,
      fields.words ++ [sign "\x7d"] = front ++ List.replicate braces (sign "\x7d") →
        kept ≤ braces → read (front ++ List.replicate kept (sign "\x7d")) = (tree, []) := by
  refine ⟨⟨fields.paths.eraseDups⟩, read_words fields, ?_, ?_, ?_⟩
  · intro path hpath
    rw [Scope.members?_of_contains ((fields.contains_iff path).mpr hpath),
      Scope.filterMap_child?_eraseDups, fields.eraseDups_filterMap_child?]
  · intro path hpath
    rw [Scope.members?, if_neg (mt (fields.contains_iff path).mp hpath)]
  · intro front braces kept hwords hkept
    have hread := read_words fields []
    rw [hwords] at hread
    exact read_unclosed hread hkept

/-- Of a constructor that names a key twice, also without its three last braces. -/
theorem read_gives_tree_twice :
    let a : Name := ⟨⟨.identifier, ['a']⟩, by decide⟩
    let b : Name := ⟨⟨.identifier, ['b']⟩, by decide⟩
    let one : Content := .atom ⟨⟨.number, ['1']⟩, .inl rfl⟩
    let c : Quoted := ⟨'"', ['c'], .inl rfl, by decide⟩
    -- `a = { b = 1 }, [1] = { b = 1 }; b{ 1 }, a = { ["c"] = {} }`
    let fields : Fields := .more (.named a) (.table (.last (.named b) one)) .comma
      (.more (.numbered ⟨.number, ['1']⟩ rfl) (.table (.last (.named b) one)) .semicolon
        (.more .positional (.call ⟨b, []⟩ (.table (.last .positional one))) .comma
          (.last (.named a) (.table (.last (.quoted c) (.table .none))))))
    let front := fields.words.dropLast.dropLast
    ∃ tree : Scope,
      read (fields.words ++ sign "\x7d" :: [a.word]) = (tree, [a.word]) ∧
      tree.members? [] = some [['a']] ∧ tree.members? [['a']] = some [['b'], ['c']] ∧
      tree.members? [['b']] = none ∧ read front = (tree, []) := by
  intro a b one c fields front
  obtain ⟨tree, hread, hknown, hunknown, hopen⟩ := read_gives_tree fields
  have hfront := hopen front 3 0 (by decide +kernel) (Nat.zero_le 3)
  rw [List.replicate_zero, List.append_nil] at hfront
  exact ⟨tree, hread [a.word], (hknown [] (by decide +kernel)).trans (by decide +kernel),
    (hknown [['a']] (by decide +kernel)).trans (by decide +kernel),
    hunknown [['b']] (by decide +kernel), hfront⟩

end LuaAssist.Constructor

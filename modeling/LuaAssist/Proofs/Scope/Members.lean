import LuaAssist.Proofs.Scope.Chains

/-!
# Members of a chain

The members of a chain are the names by which other chains go on from it, in the order in which
these became known. Where chains are told with repetitions, the first appearances count.
-/

namespace LuaAssist.Scope

/-! ## First appearances -/

section

variable {α β : Type} [BEq α] [LawfulBEq α] {front : List α} {last : α}

/-- What has been seen does not appear again. -/
theorem eraseDups_concat_of_mem (hlast : last ∈ front) :
    (front ++ [last]).eraseDups = front.eraseDups := by
  rw [List.eraseDups_append]
  simp [List.removeAll, hlast]

/-- What is new comes last. -/
theorem eraseDups_concat_of_not_mem (hlast : last ∉ front) :
    (front ++ [last]).eraseDups = front.eraseDups ++ [last] := by
  rw [List.eraseDups_append]
  simp [List.removeAll, hlast, List.eraseDups_cons]

/-- First appearances are distinct. -/
theorem nodup_eraseDups (values : List α) : values.eraseDups.Nodup := by
  induction values using List.reverseRecOn with
  | nil => exact List.nodup_nil
  | append_singleton front last ih =>
    by_cases hlast : last ∈ front
    · rwa [eraseDups_concat_of_mem hlast]
    · rw [eraseDups_concat_of_not_mem hlast, ← List.concat_eq_append]
      exact ih.concat (mt List.mem_eraseDups.mp hlast)

/-- Taking what is wanted and new, one value after the other, leaves the first appearances. -/
theorem foldl_new_eq_eraseDups (wanted : α → Bool) (values : List α) :
    values.foldl (fun known value =>
      if wanted value && !known.contains value then known ++ [value] else known) [] =
        (values.filter wanted).eraseDups := by
  induction values using List.reverseRecOn with
  | nil => rfl
  | append_singleton front last ih =>
    rw [List.foldl_concat, ih, List.filter_append]
    cases hwanted : wanted last with
    | false => simp [hwanted]
    | true =>
      rw [List.filter_cons_of_pos hwanted, List.filter_nil]
      by_cases hknown : last ∈ front.filter wanted
      · rw [eraseDups_concat_of_mem hknown, if_neg (by simp [List.mem_eraseDups.mpr hknown])]
      · have hnew : last ∉ (front.filter wanted).eraseDups := mt List.mem_eraseDups.mp hknown
        rw [eraseDups_concat_of_not_mem hknown, if_pos (by simp [hnew])]

/-- Distinct values are kept. -/
theorem eraseDups_of_nodup {values : List α} (hnodup : values.Nodup) :
    values.eraseDups = values := by
  induction values with
  | nil => rfl
  | cons value values ih =>
    obtain ⟨hnew, hrest⟩ := List.nodup_cons.mp hnodup
    have hkept : values.filter (fun other => !other == value) = values := by
      rw [List.filter_eq_self]
      intro other hmem
      simpa using fun heq : other = value => hnew (heq ▸ hmem)
    rw [List.eraseDups_cons, hkept, ih hrest]

/-- Of some of the values the first appearances are those among all. -/
theorem eraseDups_filter (p : α → Bool) (values : List α) :
    (values.filter p).eraseDups = values.eraseDups.filter p := by
  induction values using List.reverseRecOn with
  | nil => rfl
  | append_singleton front last ih =>
    rw [List.filter_append]
    by_cases hlast : last ∈ front
    · rw [eraseDups_concat_of_mem hlast, ← ih]
      cases hp : p last with
      | false => simp [hp]
      | true =>
        rw [List.filter_cons_of_pos hp, List.filter_nil,
          eraseDups_concat_of_mem (List.mem_filter.mpr ⟨hlast, hp⟩)]
    · rw [eraseDups_concat_of_not_mem hlast, List.filter_append, ← ih]
      cases hp : p last with
      | false => simp [hp]
      | true =>
        rw [List.filter_cons_of_pos hp, List.filter_nil,
          eraseDups_concat_of_not_mem fun hmem => hlast (List.mem_filter.mp hmem).1]

/-- Behind other values, repetitions do not count. -/
theorem eraseDups_append_eraseDups (front values : List α) :
    (front ++ values.eraseDups).eraseDups = (front ++ values).eraseDups := by
  induction values using List.reverseRecOn with
  | nil => rfl
  | append_singleton values last ih =>
    have hmem : last ∈ front ++ values.eraseDups ↔ last ∈ front ++ values := by
      rw [List.mem_append, List.mem_append, List.mem_eraseDups]
    by_cases hlast : last ∈ values
    · rw [eraseDups_concat_of_mem hlast, ih, ← List.append_assoc,
        eraseDups_concat_of_mem (List.mem_append_right _ hlast)]
    · rw [eraseDups_concat_of_not_mem hlast, ← List.append_assoc, ← List.append_assoc]
      by_cases hfront : last ∈ front ++ values
      · rw [eraseDups_concat_of_mem hfront, eraseDups_concat_of_mem (hmem.mpr hfront), ih]
      · rw [eraseDups_concat_of_not_mem hfront, eraseDups_concat_of_not_mem (mt hmem.mp hfront),
          ih]

/-- In front of other values, repetitions do not count. -/
theorem eraseDups_eraseDups_append (values behind : List α) :
    (values.eraseDups ++ behind).eraseDups = (values ++ behind).eraseDups := by
  have hremove : behind.removeAll values.eraseDups = behind.removeAll values := by
    simp [List.removeAll]
  rw [List.eraseDups_append, List.eraseDups_append, hremove,
    eraseDups_of_nodup (nodup_eraseDups values)]

/-- Values put together have the same first appearances if their parts have. -/
theorem eraseDups_flatMap_congr {f g : β → List α} {places : List β}
    (hsame : ∀ place ∈ places, (f place).eraseDups = (g place).eraseDups) :
    (places.flatMap f).eraseDups = (places.flatMap g).eraseDups := by
  induction places with
  | nil => rfl
  | cons place places ih =>
    rw [List.forall_mem_cons] at hsame
    rw [List.flatMap_cons, List.flatMap_cons, ← eraseDups_eraseDups_append, hsame.1,
      eraseDups_eraseDups_append, ← eraseDups_append_eraseDups, ih hsame.2,
      eraseDups_append_eraseDups]

/-- Where values are told from others, repetitions of these do not count. -/
theorem eraseDups_filterMap_eraseDups [BEq β] [LawfulBEq β] (f : β → Option α)
    (places : List β) :
    (places.eraseDups.filterMap f).eraseDups = (places.filterMap f).eraseDups := by
  induction places using List.reverseRecOn with
  | nil => rfl
  | append_singleton front last ih =>
    by_cases hlast : last ∈ front
    · rw [eraseDups_concat_of_mem hlast, ih, List.filterMap_append]
      cases hvalue : f last with
      | none => simp [hvalue]
      | some value =>
        have hmem : value ∈ front.filterMap f := List.mem_filterMap.mpr ⟨last, hlast, hvalue⟩
        rw [List.filterMap_cons_some hvalue, List.filterMap_nil, eraseDups_concat_of_mem hmem]
    · rw [eraseDups_concat_of_not_mem hlast, List.filterMap_append, List.filterMap_append,
        ← eraseDups_eraseDups_append, ih, eraseDups_eraseDups_append]

end

/-! ## Children -/

/-- The name by which a chain goes on from a base, if it goes on by one. -/
def child? (base chain : Chain) : Option Text :=
  (after? base chain).bind fun rest =>
    match rest with
    | [name] => some name
    | _ => none

/-- The empty chain is no child. -/
@[simp] theorem child?_nil (base : Chain) : child? base [] = none := by
  simp [child?, after?]

/-- A name is a child of the root. -/
@[simp] theorem child?_root_singleton (name : Text) : child? [] [name] = some name := rfl

/-- A longer chain is not. -/
theorem child?_root_of_ne_nil {name : Text} {chain : Chain} (hchain : chain ≠ []) :
    child? [] (name :: chain) = none := by
  obtain ⟨first, rest, rfl⟩ := List.exists_cons_of_ne_nil hchain
  rfl

/-- A first name that both chains have does not matter. -/
@[simp] theorem child?_cons (name : Text) (base chain : Chain) :
    child? (name :: base) (name :: chain) = child? base chain := by
  simp [child?, after?]

/-- A chain that begins with another name does not go on from a base. -/
theorem child?_of_head {name : Text} {base chain : Chain} (hhead : chain.head? ≠ some name) :
    child? (name :: base) chain = none := by
  have hother : (name :: base).isPrefixOf chain = false := by
    rw [Bool.eq_false_iff, ne_eq, List.isPrefixOf_iff_prefix]
    rintro ⟨rest, rfl⟩
    exact hhead rfl
  simp [child?, after?, hother]

/-- A chain goes on from a base by one name if it is the base with this name behind it. -/
theorem child?_eq_some_iff {base chain : Chain} {name : Text} :
    child? base chain = some name ↔ chain = base ++ [name] := by
  induction base generalizing chain with
  | nil =>
    rcases chain with _ | ⟨first, _ | ⟨second, rest⟩⟩
    · simp
    · simp
    · simp [child?_root_of_ne_nil]
  | cons first base ih =>
    by_cases hhead : chain.head? = some first
    · obtain ⟨rest, rfl⟩ := List.head?_eq_some_iff.mp hhead
      rw [child?_cons, ih, List.cons_append, List.cons.injEq, and_iff_right rfl]
    · rw [child?_of_head hhead]
      refine iff_of_false nofun ?_
      rintro rfl
      exact hhead rfl

/-- The members of a chain that is known are the names by which other chains go on from it. -/
theorem members?_of_contains {scope : Scope} {base : Chain}
    (hknown : scope.contains base = true) :
    scope.members? base = some (scope.chains.filterMap (child? base)) := by
  rw [members?, if_pos hknown, below, List.filterMap_filterMap]
  rfl

/-- The members of a chain among chains that are told with repetitions. -/
theorem filterMap_child?_eraseDups (base : Chain) (chains : List Chain) :
    chains.eraseDups.filterMap (child? base) = (chains.filterMap (child? base)).eraseDups := by
  have hnodup : (chains.eraseDups.filterMap (child? base)).Nodup := by
    refine (nodup_eraseDups chains).filterMap fun chain other name hchain hother => ?_
    rw [child?_eq_some_iff.mp hchain, child?_eq_some_iff.mp hother]
  rw [← eraseDups_of_nodup hnodup, eraseDups_filterMap_eraseDups]

end LuaAssist.Scope

import LuaAssist.Scope.Binding

/-!
# The bindings of a text

Every binding that is recognised among the words of a text binds a chain of at least one
name, and its value is either unknown or read from words: no statement binds the root.
-/

namespace LuaAssist.Binding

/-! ## The functions of the recogniser step by step -/

/-- The name that comes first in a declaration, and the names behind it. -/
theorem localNames_cons {word : Word} (hname : word.isName = true) (rest : List Word) :
    localNames (word :: rest) =
      match skipAttribute rest with
      | [] => ([word.text], [])
      | sign :: more =>
        if sign.isSign "," then (word.text :: (localNames more).1, (localNames more).2)
        else ([word.text], sign :: more) := by
  rw [localNames.eq_def]
  simp only [hname, if_true]
  split <;> rename_i hrest <;> rw [hrest]

/-- A word that begins a statement, and what is collected behind it. -/
theorem collectFrom_statement {previous : Option Word} {word : Word} {taken after : List Word}
    {found : List Binding} (hopen : word.isSign "\x7b" = false)
    (hclose : word.isSign "\x7d" = false)
    (hfound : statement previous word (taken ++ after) = (found, after)) :
    collectFrom 0 previous (word :: (taken ++ after)) =
      found ++ collectFrom 0 (word :: taken).getLast? after := by
  have hmore : (taken ++ after).length - after.length = taken.length := by simp
  rw [collectFrom.eq_def]
  simp only [hopen, hclose, hfound, hmore, List.take_left, List.drop_left, Nat.lt_irrefl,
    if_false, Bool.false_eq_true]

/-! ## What is recognised -/

/-- A binding as statements make it. -/
inductive Recognised : Binding → Prop
  | bare {path : Chain} (hpath : path ≠ []) : Recognised (Binding.plain path)
  | valued {path : Chain} (hpath : path ≠ []) (words : List Word) :
      Recognised ⟨path, (readValue words).1⟩

/-- A recognised binding does not bind the root. -/
theorem Recognised.path_ne_nil {binding : Binding} (hbinding : Recognised binding) :
    binding.path ≠ [] := by
  cases hbinding with
  | bare hpath => exact hpath
  | valued hpath => exact hpath

/-- A chain that is read has a first name. -/
theorem chain?_ne_nil {methods : Bool} {words after : List Word} {path : Chain}
    (hread : chain? methods words = some (path, after)) : path ≠ [] := by
  unfold chain? at hread
  split at hread
  · cases hread
  · split at hread
    · cases hread
      exact List.cons_ne_nil _ _
    · cases hread

/-- The values of a list are read one by one. -/
theorem exists_readValue_of_mem_values {count : Nat} {words : List Word} {value : Value}
    (hmem : value ∈ values count words) : ∃ front, value = (readValue front).1 := by
  induction count generalizing words with
  | zero => cases hmem
  | succ count ih =>
    cases words with
    | nil => cases hmem
    | cons word rest =>
      unfold values at hmem
      rcases List.mem_cons.mp hmem with rfl | hmore
      · exact ⟨word :: rest, rfl⟩
      · split at hmore
        · cases hmore
        · split at hmore
          · exact ih hmore
          · cases hmore

/-- Values that are read are given to chains with a first name. -/
theorem recognised_of_mem_assign {paths : List Chain} {count : Nat} {words : List Word}
    {binding : Binding} (hpaths : ∀ path ∈ paths, path ≠ [])
    (hmem : binding ∈ assign paths (values count words)) : Recognised binding := by
  have hread : ∀ value ∈ values count words, ∃ front, value = (readValue front).1 :=
    fun _ => exists_readValue_of_mem_values
  generalize values count words = given at hmem hread
  fun_induction assign paths given with
  | case1 => cases hmem
  | case2 path paths ih =>
    obtain ⟨hpath, hrest⟩ := List.forall_mem_cons.mp hpaths
    rcases List.mem_cons.mp hmem with rfl | hmem
    · exact .bare hpath
    · exact ih hrest hmem hread
  | case3 path paths value given ih =>
    obtain ⟨hpath, hrest⟩ := List.forall_mem_cons.mp hpaths
    obtain ⟨⟨front, rfl⟩, hgiven⟩ := List.forall_mem_cons.mp hread
    rcases List.mem_cons.mp hmem with rfl | hmem
    · exact .valued hpath front
    · exact ih hrest hmem hgiven

/-- Every target of an assignment has a first name. -/
theorem targets?_ne_nil {steps : Nat} {words after : List Word} {paths : List Chain}
    (hread : targets? steps words = some (paths, after)) : ∀ path ∈ paths, path ≠ [] := by
  induction steps generalizing words paths with
  | zero => cases hread
  | succ steps ih =>
    rw [targets?, Option.bind_eq_bind, Option.bind_eq_some_iff] at hread
    obtain ⟨⟨path, behind⟩, hchain, hread⟩ := hread
    have hpath := chain?_ne_nil hchain
    cases behind with
    | nil => cases hread
    | cons sign rest =>
      dsimp only at hread
      split at hread
      · cases hread
        simpa using hpath
      · split at hread
        · rw [Option.bind_eq_bind, Option.bind_eq_some_iff] at hread
          obtain ⟨⟨others, last⟩, htargets, hread⟩ := hread
          cases hread
          simpa [hpath] using ih htargets
        · cases hread

/-- Every parameter binds its name. -/
theorem recognised_of_mem_parameters {words : List Word} {binding : Binding}
    (hmem : binding ∈ (parameters words).1) : Recognised binding := by
  fun_induction parameters words with
  | case1 => cases hmem
  | case2 => cases hmem
  | case3 word rest hopen found after hread ih =>
    rw [hread] at ih
    dsimp only at hmem
    split at hmem
    · rcases List.mem_cons.mp hmem with rfl | hrest
      · exact .bare (List.cons_ne_nil _ _)
      · exact ih hrest
    · exact ih hmem

/-- Every variable of a loop binds its name. -/
theorem recognised_of_mem_loop {words : List Word} {binding : Binding}
    (hmem : binding ∈ (loop words).1) : Recognised binding := by
  fun_induction loop words with
  | case1 => cases hmem
  | case2 => cases hmem
  | case3 word rest hopen found after hread ih =>
    rw [hread] at ih
    dsimp only at hmem
    split at hmem
    · rcases List.mem_cons.mp hmem with rfl | hrest
      · exact .bare (List.cons_ne_nil _ _)
      · exact ih hrest
    · exact ih hmem

/-- A function header binds a chain with a first name and its parameters. -/
theorem recognised_of_mem_header {words : List Word} {binding : Binding}
    (hmem : binding ∈ (header words).1) : Recognised binding := by
  unfold header at hmem
  split at hmem
  rename_i named behind hnamed
  have hplain : binding ∈ named → Recognised binding := by
    intro hin
    split at hnamed
    · rename_i path after hread
      cases hnamed
      cases List.mem_singleton.mp hin
      exact .bare (chain?_ne_nil hread)
    · cases hnamed
      cases hin
  split at hmem
  · exact hplain hmem
  · split at hmem
    · rcases List.mem_append.mp hmem with hin | hin
      · exact hplain hin
      · exact recognised_of_mem_parameters hin
    · exact hplain hmem

/-- A declaration binds the function that it declares, or its names one by one. -/
theorem recognised_of_mem_declaration {words : List Word} {binding : Binding}
    (hmem : binding ∈ (declaration words).1) : Recognised binding := by
  have hassign : ∀ (names : List Text) (count : Nat) (words : List Word),
      binding ∈ assign (names.map fun name => [name]) (values count words) →
        Recognised binding := by
    intro names count words hin
    refine recognised_of_mem_assign (fun path hpath => ?_) hin
    obtain ⟨name, _, rfl⟩ := List.mem_map.mp hpath
    exact List.cons_ne_nil _ _
  unfold declaration at hmem
  split at hmem
  · exact recognised_of_mem_header hmem
  · split at hmem
    dsimp only at hmem
    split at hmem
    · exact hassign _ 0 [] hmem
    · split at hmem
      · exact hassign _ _ _ hmem
      · exact hassign _ 0 [] hmem

/-- An assignment binds its targets. -/
theorem recognised_of_mem_assignment {words after : List Word} {found : List Binding}
    {binding : Binding} (hread : assignment? words = some (found, after))
    (hmem : binding ∈ found) : Recognised binding := by
  rw [assignment?, Option.bind_eq_bind, Option.bind_eq_some_iff] at hread
  obtain ⟨⟨paths, rest⟩, htargets, hread⟩ := hread
  cases hread
  exact recognised_of_mem_assign (targets?_ne_nil htargets) hmem

/-- What a statement binds is recognised. -/
theorem recognised_of_mem_statement {previous : Option Word} {word : Word} {rest : List Word}
    {binding : Binding} (hmem : binding ∈ (statement previous word rest).1) :
    Recognised binding := by
  unfold statement at hmem
  split at hmem
  · exact recognised_of_mem_declaration hmem
  · split at hmem
    · exact recognised_of_mem_header hmem
    · split at hmem
      · exact recognised_of_mem_loop hmem
      · split at hmem
        · cases hread : assignment? (word :: rest) with
          | none =>
            rw [hread] at hmem
            cases hmem
          | some result =>
            rw [hread] at hmem
            exact recognised_of_mem_assignment hread hmem
        · cases hmem

/-- The bindings of a text are recognised. -/
theorem recognised_of_mem_collect {words : List Word} {binding : Binding}
    (hmem : binding ∈ collect words) : Recognised binding := by
  unfold collect at hmem
  generalize 0 = braces, none = previous at hmem
  fun_induction collectFrom braces previous words with
  | case1 => cases hmem
  | case2 braces previous word rest hopen ih => exact ih hmem
  | case3 braces previous word rest hopen hclose ih => exact ih hmem
  | case4 braces previous word rest hopen hclose hinside ih => exact ih hmem
  | case5 braces previous word rest hopen hclose houtside found after hread more ih =>
    rcases List.mem_append.mp hmem with hin | hin
    · have hfound : binding ∈ (statement previous word rest).1 := by rwa [hread]
      exact recognised_of_mem_statement hfound
    · exact ih hin

/-- No recognised binding binds the root. -/
theorem path_ne_nil_of_mem_collect {words : List Word} {binding : Binding}
    (hmem : binding ∈ collect words) : binding.path ≠ [] :=
  (recognised_of_mem_collect hmem).path_ne_nil

end LuaAssist.Binding

import LuaAssist.Proofs.FunctionSearch.Globs
import Mathlib.Data.List.Forall2
import Mathlib.Data.List.Nodup

/-!
# The order and the labels of an answer

A query without wildcards finds functions at places of the list that is searched. The answer shows
each of these places once: first the functions whose headers begin with the query, then the others,
and both in the order of the list. The label of a function depends on what is found in front of it
in the list, and not on what is shown in front of it.
-/

namespace LuaAssist.FunctionSearch

variable {signatures before rest : List Signature} {query name : Text} {names : List Text}
  {signature : Signature} {place : Nat}

/-! ## What is found, and how it is shown -/

/-- The query stands in the header of a function, whatever the letter case. -/
def Contains (query : Text) (signature : Signature) : Prop :=
  Text.lowercase query <:+: Text.lowercase signature.display

instance (query : Text) (signature : Signature) : Decidable (Contains query signature) :=
  inferInstanceAs (Decidable (Text.lowercase query <:+: Text.lowercase signature.display))

/-- The header of a function begins with the query. Letter case counts if the query has an
uppercase letter. -/
def BeginsWith (query : Text) (signature : Signature) : Prop :=
  if query.any Text.isUppercase then query <+: signature.display
  else Text.lowercase query <+: Text.lowercase signature.display

instance (query : Text) (signature : Signature) : Decidable (BeginsWith query signature) :=
  inferInstanceAs (Decidable (if query.any Text.isUppercase then query <+: signature.display
    else Text.lowercase query <+: Text.lowercase signature.display))

/-- In front of a place a function of this name has the query in its header. -/
def NamedBefore (signatures : List Signature) (query : Text) (place : Nat) (name : Text) : Prop :=
  ∃ earlier < place, ∃ signature, signatures[earlier]? = some signature ∧
    Contains query signature ∧ signature.name = name

/-- The function at a place with its label: the qualified name if the function has an owner and
its name was found before, and otherwise the name with the parameters. -/
structure ShownAt (signatures : List Signature) (query : Text) (place : Nat) (found : Found) :
    Prop where
  stands : signatures[place]? = some found.signature
  qualified : found.signature.owner ≠ none →
    NamedBefore signatures query place found.signature.name →
      found.label = found.signature.qualifiedName
  plain : ¬(found.signature.owner ≠ none ∧
      NamedBefore signatures query place found.signature.name) →
    found.label = found.signature.name ++ found.signature.rawParameters

/-- Without wildcards a header answers a query that stands in it. -/
theorem finds_iff_contains (hplain : hasWildcard query = false) :
    finds query signature.display = true ↔ Contains query signature := by
  rw [finds, if_neg (by simp [hplain]), Text.occursIn_iff, Contains]

/-- The test in front of a function tells whether it begins with the query. -/
theorem startsWith_iff_beginsWith :
    startsWith query signature.display = true ↔ BeginsWith query signature := by
  unfold startsWith BeginsWith
  split <;> exact List.isPrefixOf_iff_prefix

/-! ## Labels -/

/-- One place further one more name may have been found. -/
theorem namedBefore_succ (hstands : signatures[place]? = some signature) :
    NamedBefore signatures query (place + 1) name ↔
      NamedBefore signatures query place name ∨
        Contains query signature ∧ signature.name = name := by
  constructor
  · rintro ⟨earlier, hearlier, other, hother, hfound⟩
    rcases Nat.lt_succ_iff_lt_or_eq.mp hearlier with hbefore | rfl
    · exact Or.inl ⟨earlier, hbefore, other, hother, hfound⟩
    · obtain rfl : signature = other := Option.some.inj (hstands.symm.trans hother)
      exact Or.inr hfound
  · rintro (⟨earlier, hearlier, hnamed⟩ | hfound)
    · exact ⟨earlier, Nat.lt_succ_of_lt hearlier, hnamed⟩
    · exact ⟨place, Nat.lt_succ_self place, signature, hstands, hfound⟩

/-- With the names that were found before, a function gets the label of its place. -/
theorem shownAt_labelAfter (hstands : signatures[place]? = some signature)
    (hnames : ∀ name, name ∈ names ↔ NamedBefore signatures query place name) :
    ShownAt signatures query place ⟨labelAfter names signature, signature⟩ where
  stands := hstands
  qualified := by
    intro howner hnamed
    have hknown := (hnames _).mpr hnamed
    exact if_pos (by simpa [hknown, Option.isSome_iff_ne_none] using howner)
  plain := by
    intro hother
    refine if_neg fun hknown => hother ?_
    simp only [Bool.and_eq_true, List.contains_iff_mem, Option.isSome_iff_ne_none] at hknown
    exact ⟨hknown.2, (hnames _).mp hknown.1⟩

/-- The functions that are found in the rest of a list are shown for their places, one after the
other. -/
theorem forall₂_labelled (hplain : hasWildcard query = false) (hsplit : before ++ rest = signatures)
    (hnames : ∀ name, name ∈ names ↔ NamedBefore signatures query before.length name) :
    List.Forall₂ (ShownAt signatures query)
      (rest.findIdxs (fun s => finds query s.display) before.length)
      (labelled names (rest.filter fun s => finds query s.display)) := by
  induction rest generalizing before names with
  | nil => exact .nil
  | cons signature rest ih =>
    have hstands : signatures[before.length]? = some signature := by simp [← hsplit]
    have hsplit : before ++ [signature] ++ rest = signatures := by simp [← hsplit]
    have hlength : (before ++ [signature]).length = before.length + 1 := by simp
    rw [List.findIdxs_cons, List.filter_cons]
    cases hfinds : finds query signature.display with
    | true =>
      have hcontains := (finds_iff_contains hplain).mp hfinds
      refine .cons (shownAt_labelAfter hstands hnames) (hlength ▸ ih hsplit fun name => ?_)
      rw [hlength, namedBefore_succ hstands, List.mem_cons, hnames, or_comm]
      exact or_congr_right ((and_iff_right hcontains).trans eq_comm).symm
    | false =>
      have hcontains : ¬Contains query signature := fun hcontains => by
        rw [(finds_iff_contains hplain).mpr hcontains] at hfinds
        cases hfinds
      refine hlength ▸ ih hsplit fun name => ?_
      rw [hlength, namedBefore_succ hstands, hnames]
      exact (or_iff_left fun hfound => hcontains hfound.1).symm

/-! ## The answer -/

/-- Among the places at which something is found, those at which a test holds of the function. -/
theorem mem_filter_findIdxs (hplain : hasWildcard query = false) (test : Signature → Bool) :
    place ∈ (signatures.findIdxs fun s => finds query s.display).filter
        (fun place => signatures[place]?.any test) ↔
      ∃ signature, signatures[place]? = some signature ∧ Contains query signature ∧
        test signature = true := by
  rw [List.mem_filter, List.mem_findIdxs_iff_exists_getElem_pos]
  constructor
  · rintro ⟨⟨hplace, hfinds⟩, htest⟩
    rw [List.getElem?_eq_getElem hplace] at htest
    exact ⟨_, List.getElem?_eq_getElem hplace, (finds_iff_contains hplain).mp hfinds, htest⟩
  · rintro ⟨signature, hstands, hcontains, htest⟩
    obtain ⟨hplace, rfl⟩ := List.getElem?_eq_some_iff.mp hstands
    exact ⟨⟨hplace, (finds_iff_contains hplain).mpr hcontains⟩, by simpa [hstands] using htest⟩

/-- A query without wildcards is answered with the places at which it stands in a header, whatever
the letter case: each of them once, those whose headers begin with the query in front, and both
groups in the order of the list. Every function is shown with the label of its place. -/
theorem search_in_order (signatures : List Signature) (hplain : hasWildcard query = false) :
    ∃ first others : List Nat,
      (first ++ others).Nodup ∧ first.Pairwise (· < ·) ∧ others.Pairwise (· < ·) ∧
      (∀ place, place ∈ first ↔ ∃ signature, signatures[place]? = some signature ∧
        Contains query signature ∧ BeginsWith query signature) ∧
      (∀ place, place ∈ others ↔ ∃ signature, signatures[place]? = some signature ∧
        Contains query signature ∧ ¬BeginsWith query signature) ∧
      List.Forall₂ (ShownAt signatures query) (first ++ others) (search signatures query) := by
  let places := signatures.findIdxs fun s => finds query s.display
  let found := labelled [] (signatures.filter fun s => finds query s.display)
  have hplaces : places.Pairwise (· < ·) := List.pairwise_findIdxs
  have hshown : List.Forall₂ (ShownAt signatures query) places found :=
    forall₂_labelled hplain (List.nil_append signatures) fun name => by simp [NamedBefore]
  -- A test of the function may be made at the place or at the answer.
  have hfilter (test : Signature → Bool) : List.Forall₂ (ShownAt signatures query)
      (places.filter fun place => signatures[place]?.any test)
      (found.filter fun f => test f.signature) :=
    List.rel_filter (fun place f hshows => by simp [hshows.stands]) hshown
  have hfirst := fun place => @mem_filter_findIdxs signatures query place hplain
    fun s => startsWith query s.display
  have hothers := fun place => @mem_filter_findIdxs signatures query place hplain
    fun s => !startsWith query s.display
  simp only [Bool.not_eq_true', Bool.eq_false_iff, ne_eq, startsWith_iff_beginsWith]
    at hfirst hothers
  refine ⟨_, _, ?_, hplaces.filter _, hplaces.filter _, hfirst, hothers, ?_⟩
  · refine List.Nodup.append (hplaces.filter _).nodup (hplaces.filter _).nodup ?_
    intro place hmem hother
    obtain ⟨signature, hstands, -, hbegins⟩ := (hfirst place).mp hmem
    obtain ⟨other, hstands', -, hnot⟩ := (hothers place).mp hother
    obtain rfl : signature = other := Option.some.inj (hstands.symm.trans hstands')
    exact hnot hbegins
  · have hsearch : search signatures query =
        found.filter (fun f => startsWith query f.signature.display) ++
          found.filter fun f => !startsWith query f.signature.display := by
      unfold search
      dsimp only
      rw [List.partition_eq_filter_filter]
      rfl
    rw [hsearch]
    exact List.rel_append (hfilter _) (hfilter _)

/-- The function that begins with the query moves to the front. It stands behind the others in
the text, and so its label is the qualified name. -/
theorem search_in_order_moved :
    let signatures := Signature.ofText "function drawUp() end\nfunction up.drawUp(x) end".toList
    hasWildcard "up".toList = false ∧ ∃ first others : List Nat, 1 ∈ first ∧ 0 ∈ others ∧
      List.Forall₂ (ShownAt signatures "up".toList) (first ++ others)
        (search signatures "up".toList) := by
  intro signatures
  have hplain : hasWildcard "up".toList = false := by decide
  obtain ⟨first, others, -, -, -, hfirst, hothers, hshown⟩ := search_in_order signatures hplain
  refine ⟨hplain, first, others, (hfirst 1).mpr ?_, (hothers 0).mpr ?_, hshown⟩
  · decide +kernel
  · decide +kernel

end LuaAssist.FunctionSearch

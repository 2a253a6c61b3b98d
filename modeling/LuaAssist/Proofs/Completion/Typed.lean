import LuaAssist.Proofs.Completion.Pools
import LuaAssist.Proofs.Session.Accepting

/-!
# Completing a word

Where a word is typed, the candidates are the visible names, the functions of the document, the
documented words and the keywords that go on with what is typed, upper and lower case alike.
-/

namespace LuaAssist

namespace Completion

variable {text : Text} {offset : Nat} {sources : Sources}

/-- What offers a text where a word is typed, as which category and in which tier. -/
inductive OffersWord (text : Text) (offset : Nat) (sources : Sources) :
    Category → Nat → Text → Prop
  | visible {name : Text} (hname : name ∈ (Scope.visible text offset).names) :
      OffersWord text offset sources .variable 6 name
  | own {signature : Signature} (hown : signature ∈ sources.own) :
      OffersWord text offset sources .function 5 signature.name
  | documented {word : Text} (hword : word ∈ sources.words) :
      OffersWord text offset sources .variable 4 word
  | self : OffersWord text offset sources .keyword 3 "self".toList
  | declaration {word : Text} (hword : word ∈ Words.declaration) :
      OffersWord text offset sources .keyword 2 word
  | statement {word : Text} (hword : word ∈ Words.statement) :
      OffersWord text offset sources .keyword 1 word
  | literal {word : Text} (hword : word ∈ Words.literal) :
      OffersWord text offset sources .keyword 0 word

/-- The pools of a word are what offers texts, as far as these go on with what is typed. -/
theorem exists_wordPools_iff {typed word : Text} {category : Category} {tier : Nat} :
    (∃ pool ∈ wordPools text offset typed sources,
        word ∈ pool.texts ∧ category = pool.category ∧ tier = pool.tier) ↔
      OffersWord text offset sources category tier word ∧
        Text.lowercase typed <+: Text.lowercase word := by
  simp only [wordPools, keywordPools, Pool.startingWith, List.map_cons, List.map_nil,
    List.exists_mem_cons_iff, List.mem_filter, List.isPrefixOf_iff_prefix, List.mem_map]
  constructor
  · rintro (⟨⟨hmem, hfront⟩, rfl, rfl⟩ | ⟨⟨⟨_, hmem, rfl⟩, hfront⟩, rfl, rfl⟩ |
      ⟨⟨hmem, hfront⟩, rfl, rfl⟩ | ⟨⟨hmem, hfront⟩, rfl, rfl⟩ | ⟨⟨hmem, hfront⟩, rfl, rfl⟩ |
      ⟨⟨hmem, hfront⟩, rfl, rfl⟩ | ⟨⟨hmem, hfront⟩, rfl, rfl⟩ | ⟨_, hnone, _⟩)
    · exact ⟨.visible hmem, hfront⟩
    · exact ⟨.own hmem, hfront⟩
    · exact ⟨.documented hmem, hfront⟩
    · rw [List.mem_singleton.mp hmem] at hfront ⊢
      exact ⟨.self, hfront⟩
    · exact ⟨.declaration hmem, hfront⟩
    · exact ⟨.statement hmem, hfront⟩
    · exact ⟨.literal hmem, hfront⟩
    · cases hnone
  · rintro ⟨hoffers, hfront⟩
    cases hoffers with
    | visible hmem => exact .inl ⟨⟨hmem, hfront⟩, rfl, rfl⟩
    | own hmem => exact .inr (.inl ⟨⟨⟨_, hmem, rfl⟩, hfront⟩, rfl, rfl⟩)
    | documented hmem => exact .inr (.inr (.inl ⟨⟨hmem, hfront⟩, rfl, rfl⟩))
    | self =>
      exact .inr (.inr (.inr (.inl ⟨⟨List.mem_singleton_self _, hfront⟩, rfl, rfl⟩)))
    | declaration hmem => exact .inr (.inr (.inr (.inr (.inl ⟨⟨hmem, hfront⟩, rfl, rfl⟩))))
    | statement hmem =>
      exact .inr (.inr (.inr (.inr (.inr (.inl ⟨⟨hmem, hfront⟩, rfl, rfl⟩)))))
    | literal hmem =>
      exact .inr (.inr (.inr (.inr (.inr (.inr (.inl ⟨⟨hmem, hfront⟩, rfl, rfl⟩))))))

/-- Where a word is typed, there are candidates unless an idle request is not wanted. Their texts
are those that something offers and that begin, in lowercase, with the run of name characters in
front of the cursor in lowercase. Each is there once, as what the highest tier that offers it says,
and the higher tiers come first. -/
theorem complete_word {cursor : Nat} {reason : Trigger} {whenIdle : Bool}
    (hserved : reason = .idle → whenIdle = true)
    (hword : (placeAt text (min cursor text.length)).1 = .word) :
    ∃ found, complete? text cursor reason whenIdle sources = some found ∧ found.place = .word ∧
      Text.IsRun text found.insertOffset (min cursor text.length) ∧
      (∀ word, word ∈ found.candidates.map Candidate.text ↔
        (∃ category tier, OffersWord text (min cursor text.length) sources category tier word) ∧
          Text.lowercase ((text.take (min cursor text.length)).drop found.insertOffset) <+:
            Text.lowercase word) ∧
      (found.candidates.map Candidate.text).Nodup ∧
      (∀ candidate ∈ found.candidates,
        OffersWord text (min cursor text.length) sources candidate.category candidate.tier
            candidate.text ∧
          ∀ category tier,
            OffersWord text (min cursor text.length) sources category tier candidate.text →
              tier ≤ candidate.tier) ∧
      found.candidates.Pairwise fun a b => b.tier ≤ a.tier := by
  generalize hoffset : min cursor text.length = offset at hword ⊢
  have hle : offset ≤ text.length := hoffset ▸ Nat.min_le_right _ _
  let typed := (TypedChain.read text offset).partialName
  have htyped : (text.take offset).drop (offset - typed.length) = typed :=
    (TypedChain.partialName_eq hle).symm
  have hfound : complete? text cursor reason whenIdle sources =
      some ⟨.word, Pool.merge (wordPools text offset typed sources), offset - typed.length,
        false⟩ := by
    unfold complete?
    rw [if_neg (by simpa using hserved), hoffset]
    have hplace : placeAt text offset = (.word, (placeAt text offset).2) := by rw [← hword]
    dsimp only
    rw [hplace]
  refine ⟨_, hfound, rfl, TypedChain.isRun_partialName hle, ?_,
    Pool.nodup_merge _, ?_, Pool.pairwise_merge _⟩
  · intro word
    rw [htyped, Pool.mem_texts_merge]
    constructor
    · rintro ⟨pool, hpool, hmem⟩
      obtain ⟨hoffers, hfront⟩ := exists_wordPools_iff.mp ⟨pool, hpool, hmem, rfl, rfl⟩
      exact ⟨⟨_, _, hoffers⟩, hfront⟩
    · rintro ⟨⟨category, tier, hoffers⟩, hfront⟩
      obtain ⟨pool, hpool, hmem, _⟩ := exists_wordPools_iff.mpr ⟨hoffers, hfront⟩
      exact ⟨pool, hpool, hmem⟩
  · intro candidate hcandidate
    obtain ⟨hpool, hhighest⟩ := Pool.exists_pool_of_mem_merge hcandidate
    obtain ⟨hoffers, hfront⟩ := exists_wordPools_iff.mp hpool
    refine ⟨hoffers, fun category tier hother => ?_⟩
    obtain ⟨pool, hpool, hmem, _, rfl⟩ := exists_wordPools_iff.mpr ⟨hother, hfront⟩
    exact hhighest pool hpool hmem

/-- A name, a function and a keyword that begin with the same letters. -/
def sharedText : Text := "local Function = 1\nprint(1) fUnC".toList

/-- A function that is called like the visible name and one that is called like a keyword. -/
def sharedSources : Sources where
  own := Signature.ofText "function m.Function() end\nfunction function_() end".toList
  visible := []
  words := ["FUNCTION".toList, "function_".toList, "print".toList]
  members := .empty
  calls := .empty

/-- The name hides the function that is called like it, and is offered beside the keyword. -/
theorem complete_word_shared :
    (placeAt sharedText (min 100 sharedText.length)).1 = .word ∧
      ∃ found, complete? sharedText 100 .idle true sharedSources = some found ∧
        ("Function".toList ∈ found.candidates.map Candidate.text ∧
          "function".toList ∈ found.candidates.map Candidate.text ∧
          "print".toList ∉ found.candidates.map Candidate.text) ∧
        ∀ candidate ∈ found.candidates, candidate.text = "Function".toList →
          candidate.tier = 6 := by
  have hword : (placeAt sharedText (min 100 sharedText.length)).1 = .word := by decide +kernel
  have hcursor : min 100 sharedText.length = 32 := by decide +kernel
  have hserved : Trigger.idle = .idle → true = true := fun _ => rfl
  obtain ⟨found, hfound, _, hrun, htexts, _, hhighest, _⟩ :=
    @complete_word sharedText sharedSources 100 .idle true hserved hword
  refine ⟨hword, found, hfound, ?_⟩
  rw [hcursor] at hrun htexts hhighest
  have hstart : found.insertOffset = 28 := by
    have hruns : ∀ start < 33,
        (∀ c ∈ (sharedText.take 32).drop start, Text.isIdentifierPart c = true) →
        (∀ c ∈ (sharedText.take start).getLast?, Text.isIdentifierPart c = false) →
        start = 28 := by
      decide +kernel
    exact hruns _ (Nat.lt_succ_of_le hrun.start_le) hrun.inside hrun.outside
  rw [hstart] at htexts
  have hvisible : "Function".toList ∈ (Scope.visible sharedText 32).names := by decide +kernel
  refine ⟨⟨(htexts _).mpr ⟨⟨_, _, .visible hvisible⟩, by decide +kernel⟩,
    (htexts _).mpr ⟨⟨_, _, .statement (by decide)⟩, by decide +kernel⟩, fun hprint => ?_⟩, ?_⟩
  · exact absurd ((htexts _).mp hprint).2 (by decide +kernel)
  · intro candidate hmem htext
    obtain ⟨hoffers, hall⟩ := hhighest candidate hmem
    rw [← htext] at hvisible
    have hle : 6 ≤ candidate.tier := hall .variable 6 (.visible hvisible)
    generalize candidate.category = category, candidate.tier = tier, candidate.text = word
      at hoffers hle ⊢
    cases hoffers <;> omega

end Completion

end LuaAssist

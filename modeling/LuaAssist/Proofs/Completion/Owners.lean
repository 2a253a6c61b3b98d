import LuaAssist.Proofs.Completion.Chains
import LuaAssist.Proofs.Completion.Pools
import LuaAssist.Proofs.Text.Pieces

/-!
# Completing a function of an owner

Behind an owner with a point or a colon the receiver is the last name of the owner. What belongs to
this name is offered and, if anything does, nothing else is. So a function is offered behind an
owner of one name, and behind a longer one if its name belongs to the last name as well or if
nothing does and the name is offered otherwise.
-/

namespace LuaAssist.Completion

open TypedChain (IsSegment BeginsBehind dotted)

variable {text front last name : Text} {chain : Chain} {cursor offset : Nat} {sign : Char}
  {place : Place} {reason : Trigger} {whenIdle : Bool} {sources : Sources} {signature : Signature}

/-! ## What is offered -/

/-- A name is known to belong to a receiver. -/
inductive Belongs (sources : Sources) (place : Place) (receiver : Text) : Text → Prop where
  | function {signature : Signature} (usable : signature ∈ sources.visible)
      (owned : signature.owner = some receiver) : Belongs sources place receiver signature.name
  | call {call : Documentation.Call} (asked : place = .method)
      (documented : call ∈ sources.calls.ownedBy receiver) :
      Belongs sources place receiver call.name
  | member {name : Text} (asked : place = .member)
      (documented : name ∈ sources.members.membersOf receiver) :
      Belongs sources place receiver name

/-- A name is offered behind a sign although nothing is known of its receiver. -/
inductive OfferedAnyway (sources : Sources) (place : Place) (text : Text) (offset : Nat) :
    Text → Prop where
  | reached {chain : Chain} {names : List Text} {name : Text}
      (typed : (TypedChain.read text offset).segments = chain) (nonempty : chain ≠ [])
      (known : (Scope.visible text offset).members? chain = some names) (mem : name ∈ names) :
      OfferedAnyway sources place text offset name
  | visible {name : Text} (mem : name ∈ (Scope.visible text offset).names) :
      OfferedAnyway sources place text offset name
  | call {name : Text} (asked : place = .method) (mem : name ∈ sources.calls.words) :
      OfferedAnyway sources place text offset name
  | own {signature : Signature} (asked : place = .method) (mem : signature ∈ sources.own) :
      OfferedAnyway sources place text offset signature.name
  | member {name : Text} (asked : place = .member) (mem : name ∈ sources.members.words) :
      OfferedAnyway sources place text offset name
  | self {name : Text} (mem : name ∈ Words.selfName) :
      OfferedAnyway sources place text offset name
  | metamethod {name : Text} (asked : place = .method) (mem : name ∈ Words.metamethods) :
      OfferedAnyway sources place text offset name

/-- The pools of a receiver hold what belongs to it. -/
theorem mem_receiverPools {receiver : Text} :
    (∃ pool ∈ receiverPools place receiver sources, name ∈ pool.texts) ↔
      Belongs sources place receiver name := by
  constructor
  · rintro ⟨pool, hpool, hname⟩
    rcases List.mem_cons.mp hpool with rfl | hpool
    · obtain ⟨signature, hsignature, rfl⟩ := List.mem_map.mp hname
      obtain ⟨husable, howned⟩ := List.mem_filter.mp hsignature
      exact .function husable (by simpa using howned)
    · cases place with
      | method =>
        obtain rfl := List.mem_singleton.mp hpool
        obtain ⟨call, hcall, rfl⟩ := List.mem_map.mp hname
        exact .call rfl hcall
      | member =>
        obtain rfl := List.mem_singleton.mp hpool
        exact .member rfl hname
      | argument => cases hpool
      | word => cases hpool
  · rintro (⟨husable, howned⟩ | ⟨rfl, hcall⟩ | ⟨rfl, hmember⟩)
    · refine ⟨_, List.mem_cons_self, List.mem_map_of_mem (List.mem_filter.mpr ⟨husable, ?_⟩)⟩
      simpa using howned
    · exact ⟨_, List.mem_cons_of_mem _ (List.mem_singleton_self _), List.mem_map_of_mem hcall⟩
    · exact ⟨_, List.mem_cons_of_mem _ (List.mem_singleton_self _), hmember⟩

/-- The pools behind a sign hold what is offered anyway. -/
theorem mem_memberPools (hplace : place = .member ∨ place = .method) :
    (∃ pool ∈ memberPools place text offset sources, name ∈ pool.texts) ↔
      OfferedAnyway sources place text offset name := by
  constructor
  · rintro ⟨pool, hpool, hname⟩
    simp only [memberPools, List.mem_append, List.mem_singleton] at hpool
    rcases hpool with (((hreached | rfl) | hkind) | rfl) | hmeta
    · split at hreached
      · rename_i names hmembers
        obtain rfl := List.mem_singleton.mp hreached
        split at hmembers
        · cases hmembers
        · rename_i hne
          exact .reached rfl (by simpa using hne) hmembers hname
      · cases hreached
    · exact .visible hname
    · rcases hplace with rfl | rfl
      · obtain rfl : pool = _ := by simpa using hkind
        exact .member rfl hname
      · obtain rfl | rfl : pool = _ ∨ pool = _ := by simpa using hkind
        · exact .call rfl hname
        · obtain ⟨signature, hsignature, rfl⟩ := List.mem_map.mp hname
          exact .own rfl hsignature
    · exact .self hname
    · split at hmeta
      · rename_i hmethod
        obtain rfl := List.mem_singleton.mp hmeta
        exact .metamethod hmethod hname
      · cases hmeta
  · rintro (⟨htyped, hne, hknown, hmem⟩ | hmem | ⟨rfl, hmem⟩ | ⟨rfl, hmem⟩ | ⟨rfl, hmem⟩ | hmem |
      ⟨rfl, hmem⟩)
    · exact ⟨⟨.variable, 4, _⟩, by simp [memberPools, htyped, hne, hknown], hmem⟩
    · exact ⟨⟨.variable, 3, (Scope.visible text offset).names⟩, by simp [memberPools], hmem⟩
    · exact ⟨⟨.function, 2, _⟩, by simp [memberPools], hmem⟩
    · exact ⟨⟨.function, 2, _⟩, by simp [memberPools], List.mem_map_of_mem hmem⟩
    · exact ⟨⟨.variable, 2, _⟩, by simp [memberPools], hmem⟩
    · exact ⟨⟨.keyword, 1, Words.selfName⟩, by simp [memberPools], hmem⟩
    · exact ⟨⟨.metamethod, 0, Words.metamethods⟩, by simp [memberPools], hmem⟩

/-! ## Behind a sign -/

/-- Behind a sign the candidates are what belongs to the receiver, and what is offered anyway if
nothing does. -/
theorem mem_separatorPools {separator : Nat} (hplace : place = .member ∨ place = .method)
    (hreceiver : receiver text separator = last) (offset : Nat) (sources : Sources) (name : Text) :
    name ∈ (Pool.merge (separatorPools place text offset separator sources).1).map Candidate.text ↔
      Belongs sources place last name ∨
        (∀ other, ¬Belongs sources place last other) ∧
          OfferedAnyway sources place text offset name := by
  have hany : (receiverPools place last sources).any (fun pool => !pool.texts.isEmpty) = true ↔
      ∃ other, Belongs sources place last other := by
    simp only [← mem_receiverPools, List.any_eq_true, Bool.not_eq_true',
      List.isEmpty_eq_false_iff_exists_mem]
    constructor
    · rintro ⟨pool, hpool, other, hother⟩
      exact ⟨other, pool, hpool, hother⟩
    · rintro ⟨other, pool, hpool, hother⟩
      exact ⟨pool, hpool, other, hother⟩
  rw [Pool.mem_texts_merge, separatorPools, hreceiver]
  by_cases hknown : ∃ other, Belongs sources place last other
  · rw [if_pos (hany.mpr hknown), mem_receiverPools]
    exact (or_iff_left fun hnone => hknown.elim hnone.1).symm
  · rw [if_neg (mt hany.mp hknown), mem_memberPools hplace]
    rw [not_exists] at hknown
    exact ⟨fun hoffered => Or.inr ⟨hknown, hoffered⟩,
      Or.rec (fun howned => absurd howned (hknown name)) And.right⟩

/-- Behind an owner a served request is answered. If the owner is one name, its function is offered.
In general the last name of the owner is the receiver: the function is offered if its name belongs
to the last name, or if nothing does and its name is offered anyway. The chain for which this asks
is the owner, if that begins where it is typed. -/
theorem complete_owned (hserved : reason = .idle → whenIdle = true)
    (husable : signature ∈ sources.visible)
    (howner : signature.owner = some (Text.join ['.'] chain))
    (hsign : signature.relation.separator? = some sign)
    (hchain : ∀ name ∈ chain, IsSegment name) (hlast : chain.getLast? = some last)
    (hfront : ∀ c ∈ front.getLast?, Text.isIdentifierPart c = false)
    (htext : text.take cursor = front ++ (Text.join ['.'] chain ++ [sign])) :
    ∃ found, complete? text cursor reason whenIdle sources = some found ∧
      found.place = placeBehind sign ∧
      (chain = [last] → signature.name ∈ found.candidates.map Candidate.text) ∧
      (signature.name ∈ found.candidates.map Candidate.text ↔
        Belongs sources (placeBehind sign) last signature.name ∨
          (∀ other, ¬Belongs sources (placeBehind sign) last other) ∧
            OfferedAnyway sources (placeBehind sign) text (min cursor text.length)
              signature.name) ∧
      (BeginsBehind front →
        (TypedChain.read text (min cursor text.length)).segments = chain) := by
  obtain ⟨init, rfl⟩ := List.getLast?_eq_some_iff.mp hlast
  have hsigns : sign = '.' ∨ sign = ':' := by
    cases hrelation : signature.relation <;> rw [hrelation] at hsign <;> cases hsign
    · exact Or.inr rfl
    · exact Or.inl rfl
  have htyped : text.take (min cursor text.length) =
      front ++ (dotted init ++ (last ++ [sign])) := by
    rw [← List.take_eq_take_min, htext, Text.join_append_singleton, List.append_assoc]
    rfl
  have hbefore : ∀ c ∈ (front ++ dotted init).getLast?, Text.isIdentifierPart c = false := by
    rw [← List.head?_reverse, List.reverse_append]
    exact TypedChain.head?_before hfront init
  obtain ⟨separator, hplace, hreceiver⟩ := placeAt_sign
    (hchain last (List.mem_append_right _ (List.mem_singleton_self last))) hsigns hbefore
    (by rw [htyped, List.append_assoc])
  obtain ⟨found, hfound, hasked, hcandidates⟩ := exists_complete_sign sources hserved hplace
  have hoffered := mem_separatorPools (placeBehind_eq sign) hreceiver (min cursor text.length)
    sources signature.name
  rw [← hcandidates] at hoffered
  refine ⟨found, hfound, hasked, fun hone => ?_, hoffered, fun hbegins => ?_⟩
  · rw [hone] at howner
    exact hoffered.mpr (Or.inl (.function husable howner))
  · exact TypedChain.segments_read_sign hchain hsigns hbegins htyped

/-- What a text is completed with where only the functions of another text are known. -/
def functionsOf (functions : Text) : Sources := ⟨[], Signature.ofText functions, [], .empty, .empty⟩

/-- A method of an inner table, and its owner on the last line. -/
def ownedText : Text := "a = {}\nfunction a.b:c() end\nreturn a.b:".toList

/-- Nothing belongs to the last name, and the table is known to have the name. -/
theorem complete_owned_inner :
    ∃ signature ∈ (functionsOf ownedText).visible,
      signature.owner = some (Text.join ['.'] [['a'], ['b']]) ∧
        signature.relation.separator? = some ':' ∧ (∀ name ∈ [['a'], ['b']], IsSegment name) ∧
        ∃ found, complete? ownedText 39 .explicit false (functionsOf ownedText) = some found ∧
          signature.name = ['c'] ∧ signature.name ∈ found.candidates.map Candidate.text := by
  obtain ⟨signature, husable, howner, hsign, hname⟩ :
      ∃ signature ∈ (functionsOf ownedText).visible,
        signature.owner = some (Text.join ['.'] [['a'], ['b']]) ∧
          signature.relation.separator? = some ':' ∧ signature.name = ['c'] := by
    decide +kernel
  have hchain : ∀ name ∈ [['a'], ['b']], IsSegment name := by
    simp only [List.mem_cons, List.not_mem_nil, or_false, forall_eq_or_imp, forall_eq]
    exact ⟨⟨by decide, by decide +kernel, rfl⟩, ⟨by decide, by decide +kernel, rfl⟩⟩
  obtain ⟨found, hfound, -, -, hoffered, -⟩ : ∃ found,
      complete? ownedText 39 .explicit false (functionsOf ownedText) = some found ∧ _ :=
    complete_owned nofun husable howner hsign hchain rfl
      (by decide +kernel : ∀ c ∈ (ownedText.take 35).getLast?, Text.isIdentifierPart c = false) rfl
  refine ⟨signature, husable, howner, hsign, hchain, found, hfound, hname, hoffered.mpr ?_⟩
  refine Or.inr ⟨fun other hother => ?_, ?_⟩
  · have hnone : ∀ pool ∈ receiverPools .method ['b'] (functionsOf ownedText), pool.texts = [] := by
      decide +kernel
    obtain ⟨pool, hpool, hmem⟩ := mem_receiverPools.mpr hother
    exact List.not_mem_nil (hnone pool hpool ▸ hmem)
  · rw [hname]
    have hknown : (Scope.visible ownedText 39).members? [['a'], ['b']] = some [['c']] := by
      decide +kernel
    exact .reached (by decide +kernel) (List.cons_ne_nil _ _) hknown (List.mem_singleton_self _)

/-- Behind a longer owner its function is missing if nothing tells that the name is a member. -/
theorem complete_owned_misses :
    (∃ signature ∈ (functionsOf "function a.b.c() end".toList).visible,
      signature.owner = some (Text.join ['.'] [['a'], ['b']]) ∧ signature.relation = .member ∧
        signature.name = ['c']) ∧
      "a.b.".toList.take 4 = Text.join ['.'] [['a'], ['b']] ++ ['.'] ∧
      ∃ found, complete? "a.b.".toList 4 .explicit true
          (functionsOf "function a.b.c() end".toList) = some found ∧
        ['c'] ∉ found.candidates.map Candidate.text := by
  have hplace : placeAt "a.b.".toList (min 4 "a.b.".toList.length) = (placeBehind '.', some 3) := by
    decide +kernel
  have hserved : Trigger.explicit = .idle → true = true := fun _ => rfl
  obtain ⟨found, hfound, -, hcandidates⟩ :=
    exists_complete_sign (functionsOf "function a.b.c() end".toList) hserved hplace
  refine ⟨by decide +kernel, rfl, found, hfound, ?_⟩
  rw [hcandidates, Pool.mem_texts_merge]
  decide +kernel

end LuaAssist.Completion

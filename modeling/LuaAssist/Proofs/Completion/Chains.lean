import LuaAssist.Completion
import LuaAssist.Proofs.TypedChain.Written

/-!
# Chains with a sign behind them

A chain is typed with a point behind each of its names, or with a colon behind the last one. Behind
it a member or a method is asked for, of the last name, and all of its names are read again, as long
as the chain begins where it is typed.
-/

namespace LuaAssist

namespace TypedChain

variable {text front : Text} {chain : Chain} {offset : Nat}

/-- The names of a chain, each with a point behind it. -/
def dotted (chain : Chain) : Text := chain.flatMap (· ++ ['.'])

/-- A further name is written with its point. -/
theorem dotted_concat (chain : Chain) (name : Text) :
    dotted (chain ++ [name]) = dotted chain ++ (name ++ ['.']) := by
  simp [dotted]

/-- Names with points behind them are links of a chain. -/
theorem exists_written_eq_dotted (hchain : ∀ name ∈ chain, IsSegment name) :
    ∃ links, written links = dotted chain ∧ links.map Link.name = chain := by
  induction chain with
  | nil => exact ⟨[], rfl, rfl⟩
  | cons name chain ih =>
    obtain ⟨hname, hchain⟩ := List.forall_mem_cons.mp hchain
    obtain ⟨links, hwritten, hnames⟩ := ih hchain
    let point : Joint := ⟨[], '.', [], by decide, Or.inl rfl, by decide⟩
    refine ⟨⟨name, [], point, hname, .none⟩ :: links, ?_, by rw [List.map_cons, hnames]⟩
    rw [dotted, List.flatMap_cons, ← dotted, ← hwritten]
    rfl

/-- What stands in front of a name of the chain ends with a point, or in front of the chain. -/
theorem head?_before (hfront : ∀ c ∈ front.getLast?, Text.isIdentifierPart c = false)
    (chain : Chain) :
    ∀ c ∈ ((dotted chain).reverse ++ front.reverse).head?, Text.isIdentifierPart c = false := by
  intro c hc
  rcases List.eq_nil_or_concat chain with rfl | ⟨chain, name, rfl⟩
  · exact hfront c (by simpa [dotted] using hc)
  · rw [List.concat_eq_append, dotted_concat] at hc
    simp only [List.reverse_append, List.reverse_singleton, List.cons_append, List.head?_cons,
      Option.mem_def, Option.some.injEq] at hc
    rw [← hc]
    exact isIdentifierPart_point

/-- Links up to an offset are read as they are written. -/
theorem segments_of_written {links : List Link} (hfront : BeginsBehind front)
    (htext : text.take offset = front ++ written links) :
    (read text offset).segments = links.map Link.name := by
  have hwhole := read_written links [] (List.forall_mem_nil _) hfront
  have hleft : leftOf (front ++ written links ++ [] ++ []) (front ++ written links ++ []).length =
      leftOf text offset := by
    rw [leftOf, leftOf, htext, List.take_left, List.append_nil]
  rw [read, hleft] at hwhole
  rw [read, hwhole]

/-- A chain that is typed is read. -/
theorem segments_read (hchain : ∀ name ∈ chain, IsSegment name) (hfront : BeginsBehind front)
    (htext : text.take offset = front ++ dotted chain) : (read text offset).segments = chain := by
  obtain ⟨links, hwritten, hlinks⟩ := exists_written_eq_dotted hchain
  rw [← hwritten] at htext
  rw [segments_of_written hfront htext, hlinks]

/-- So is one with a colon behind its last name. -/
theorem segments_read_sign {last : Text} {sign : Char}
    (hchain : ∀ name ∈ chain ++ [last], IsSegment name) (hsign : sign = '.' ∨ sign = ':')
    (hfront : BeginsBehind front)
    (htext : text.take offset = front ++ (dotted chain ++ (last ++ [sign]))) :
    (read text offset).segments = chain ++ [last] := by
  obtain ⟨hchain, hlast⟩ := List.forall_mem_append.mp hchain
  obtain ⟨links, hwritten, hlinks⟩ := exists_written_eq_dotted hchain
  let joint : Joint := ⟨[], sign, [], by decide, hsign, by decide⟩
  let link : Link := ⟨last, [], joint, hlast last (List.mem_singleton_self _), .none⟩
  have hall : written (links ++ [link]) = dotted chain ++ (last ++ [sign]) := by
    rw [written_concat, hwritten]
    rfl
  rw [← hall] at htext
  rw [segments_of_written hfront htext, List.map_append, hlinks]
  rfl

end TypedChain

namespace Completion

open TypedChain (IsSegment dotted leftOf)

variable {text front : Text} {chain : Chain} {cursor offset : Nat} {sign : Char}

/-- What is asked for behind a sign between names. -/
def placeBehind (sign : Char) : Place := if sign = '.' then .member else .method

/-- Behind a sign a member or a method is asked for. -/
theorem placeBehind_eq (sign : Char) : placeBehind sign = .member ∨ placeBehind sign = .method := by
  unfold placeBehind
  split
  · exact Or.inl rfl
  · exact Or.inr rfl

/-- Behind a sign, something is asked for of the name in front of it. -/
theorem placeAt_sign {last : Text} (hlast : IsSegment last) (hsign : sign = '.' ∨ sign = ':')
    (hfront : ∀ c ∈ front.getLast?, Text.isIdentifierPart c = false)
    (htext : text.take offset = front ++ (last ++ [sign])) :
    ∃ separator, placeAt text offset = (placeBehind sign, some separator) ∧
      receiver text separator = last := by
  obtain ⟨stem, hstem⟩ : ∃ stem, stem = front ++ last := ⟨_, rfl⟩
  rw [← List.append_assoc, ← hstem] at htext
  have hplace : placeAt text offset = (placeBehind sign, some stem.length) := by
    have hleft : leftOf text offset = sign :: stem.reverse := by
      rw [leftOf, htext, List.reverse_append]
      rfl
    rcases hsign with rfl | rfl <;> simp [placeAt, hleft, Text.trimStart, Text.isBlank, placeBehind]
  refine ⟨_, hplace, ?_⟩
  have hlength := congrArg List.length htext
  rw [List.length_take, List.length_append, List.length_singleton] at hlength
  -- Left of the sign stands the last name, and in front of it nothing that belongs to it.
  have hleft : leftOf text stem.length = last.reverse ++ front.reverse := by
    have hshorter := congrArg (List.take stem.length) htext
    rw [List.take_take, Nat.min_eq_left (by omega), List.take_left] at hshorter
    rw [leftOf, hshorter, hstem, List.reverse_append]
  have hempty : last.reverse.isEmpty = false := by simpa using hlast.ne_nil
  rw [receiver, if_neg (by omega), hleft, (hlast.head?_reverse _).1,
    TypedChain.takeWhile_reverse hlast.parts (by simpa using hfront), if_neg (by simp [hempty]),
    List.reverse_reverse]

/-- Behind a chain with a point behind it, a member of its last name is asked for. -/
theorem placeAt_dotted {last : Text} (hlast : IsSegment last)
    (hfront : TypedChain.BeginsBehind front)
    (htext : text.take offset = front ++ dotted (chain ++ [last])) :
    ∃ separator, placeAt text offset = (.member, some separator) ∧
      receiver text separator = last := by
  rw [TypedChain.dotted_concat, ← List.append_assoc] at htext
  exact placeAt_sign hlast (Or.inl rfl)
    (by simpa using TypedChain.head?_before hfront.name chain) htext

/-- At a place behind a sign the pools of the sign are merged. -/
theorem exists_complete_sign {separator : Nat} {reason : Trigger} {whenIdle : Bool}
    (sources : Sources) (hserved : reason = .idle → whenIdle = true)
    (hplace : placeAt text (min cursor text.length) = (placeBehind sign, some separator)) :
    ∃ found, complete? text cursor reason whenIdle sources = some found ∧
      found.place = placeBehind sign ∧ found.candidates = Pool.merge
        (separatorPools (placeBehind sign) text (min cursor text.length) separator sources).1 := by
  unfold complete?
  rw [if_neg (by simpa using hserved)]
  dsimp only
  rw [hplace]
  rcases placeBehind_eq sign with hsign | hsign <;> rw [hsign] <;> exact ⟨_, rfl, rfl, rfl⟩

end Completion

end LuaAssist

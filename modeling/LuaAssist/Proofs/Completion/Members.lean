import LuaAssist.Proofs.Completion.Chains
import LuaAssist.Proofs.Completion.Pools
import LuaAssist.Proofs.Scope.Keys
import LuaAssist.Proofs.Token.Bytes

/-!
# Completing a member of a table

Where a declaration of a name as a table constructor is all that stands above the line, and keys of
the constructor are typed behind the name, the keys of the constructor to which they lead are
offered first.
-/

namespace LuaAssist

open Program (Name Fields Statement)
open TypedChain (IsSegment BeginsBehind dotted)

/-! ## What is typed -/

/-- A declared name is read in a chain. -/
theorem Program.Name.isSegment (name : Name) : IsSegment name.text := by
  have hstarts := name.starts
  obtain ⟨c, rest, htext⟩ : ∃ c rest, name.text = c :: rest := by
    cases htext : name.text with
    | nil => simp [htext] at hstarts
    | cons c rest => exact ⟨c, rest, rfl⟩
  refine ⟨by simp [htext], fun d hd => Lexer.isIdentifierPart_of_isNamePart (name.parts d hd), ?_⟩
  have hstart : Lexer.isNameStart c = true := by simpa [htext] using hstarts
  have hdigit : c.isDigit = false := by
    rw [Bool.eq_false_iff]
    intro hdigit
    simp only [Lexer.isNameStart, Bool.or_eq_true, decide_eq_true_eq] at hstart
    rcases hstart with hletter | rfl
    · simp only [Char.isDigit, Bool.and_eq_true, decide_eq_true_eq,
        UInt32.le_iff_toNat_le] at hdigit
      exact absurd ((Lexer.bounds_of_isAlpha hletter).1.trans hdigit.2) (by decide)
    · cases hdigit
  rw [htext, List.head?_cons, Option.any_some, hdigit]

/-- A chain begins on a line of its own behind words of which the last is a brace. -/
theorem TypedChain.BeginsBehind.of_written {words : List Word} {above front : Text}
    (hwritten : Word.Written (words ++ [Word.sign "\x7d"]) above) (hfront : BeginsBehind front) :
    BeginsBehind (above ++ front) := by
  obtain ⟨body, blanks, rfl, hspaces⟩ := hwritten.exists_last
  have hblanks : ∀ c ∈ blanks, Text.isBlank c = true := by
    intro c hc
    have hspace := hspaces c hc
    simp only [Lexer.isSpace, Bool.or_eq_true, decide_eq_true_eq] at hspace
    rcases hspace with (((rfl | rfl) | rfl) | rfl) | rfl <;> rfl
  have habove : Text.trimEnd (body ++ ['\x7d'] ++ blanks) = body ++ ['\x7d'] := by
    rw [Text.trimEnd_append_of_eq_nil _ (Text.trimEnd_eq_nil hblanks),
      Text.trimEnd_append_of_ne_nil _ (by decide)]
    rfl
  constructor
  · intro c hc
    rw [List.getLast?_append, Option.mem_def, Option.or_eq_some_iff] at hc
    rcases hc with hc | ⟨-, hc⟩
    · exact hfront.name c hc
    · rw [List.getLast?_append, Option.or_eq_some_iff] at hc
      rcases hc with hc | ⟨-, hc⟩
      · cases hpart : Text.isIdentifierPart c with
        | false => rfl
        | true =>
          have hblank := hblanks c (List.mem_of_getLast? hc)
          rw [Text.isBlank_of_isIdentifierPart hpart] at hblank
          cases hblank
      · obtain rfl : '\x7d' = c := by simpa [Word.sign] using hc
        decide +kernel
  · by_cases htrim : Text.trimEnd front = []
    · rw [Text.trimEnd_append_of_eq_nil _ htrim]
      refine Or.inr fun c hc => ?_
      have hbrace : c = '\x7d' := by
        rw [show (Word.sign "\x7d").text = ['\x7d'] from rfl, habove] at hc
        simpa using hc.symm
      rw [hbrace]
      decide
    · rw [Text.trimEnd_append_of_ne_nil _ htrim]
      refine hfront.separator.imp (fun htwo => htwo.trans (List.suffix_append _ _)) ?_
      intro hother c hc
      rw [List.getLast?_append, Option.mem_def, Option.or_eq_some_iff] at hc
      rcases hc with hc | ⟨hnone, -⟩
      · exact hother c hc
      · exact absurd (List.getLast?_eq_none_iff.mp hnone) htrim

namespace Completion

variable {name : Name} {fields inner : Fields} {path : Chain} {text above front behind last : Text}
  {cursor : Nat} {reason : Trigger} {whenIdle : Bool} {sources : Sources}

/-- Where nothing is known to belong to the receiver, the members of the typed chain come first,
alone in their tier. -/
theorem exists_complete_member {separator : Nat} {chain : Chain} {keys : List Text}
    (hserved : reason = .idle → whenIdle = true)
    (hplace : placeAt text (min cursor text.length) = (.member, some separator))
    (hreceiver : receiver text separator = last)
    (howner : ∀ signature ∈ sources.visible, signature.owner ≠ some last)
    (hmembers : sources.members.membersOf last = [])
    (hread : (TypedChain.read text (min cursor text.length)).segments = chain) (hne : chain ≠ [])
    (hkeys : (Scope.visible text (min cursor text.length)).members? chain = some keys)
    (hnodup : keys.Nodup) :
    ∃ found others, complete? text cursor reason whenIdle sources = some found ∧
      found.candidates = keys.map (⟨·, .variable, 4⟩) ++ others ∧
      ∀ other ∈ others, other.tier < 4 := by
  generalize hoffset : min cursor text.length = offset at hplace hread hkeys
  have hown : (receiverPools .member (receiver text separator) sources).any
      (fun pool => !pool.texts.isEmpty) = false := by
    have hfunctions : sources.visible.filter (fun s => s.owner = some last) = [] := by
      rw [List.filter_eq_nil_iff]
      exact fun signature hmem => by simpa using howner signature hmem
    simp [hreceiver, receiverPools, hfunctions, hmembers]
  have hempty : chain.isEmpty = false := by simpa using hne
  let lower : List Pool := [⟨.variable, 3, (Scope.visible text offset).names⟩,
    ⟨.variable, 2, sources.members.words⟩, ⟨.keyword, 1, Words.selfName⟩]
  have hpools : separatorPools .member text offset separator sources =
      (⟨.variable, 4, keys⟩ :: lower, false) := by
    simp [separatorPools, hown, memberPools, hread, hempty, hkeys, lower]
  let top : Pool := ⟨.variable, 4, keys⟩
  have hall : ∀ pool ∈ lower, pool.tier < top.tier := by simp [lower, top]
  obtain ⟨others, hmerge, hlower⟩ := Pool.exists_merge_cons hnodup hall
  have hpoint : placeAt text (min cursor text.length) = (placeBehind '.', some separator) :=
    hoffset ▸ hplace
  obtain ⟨found, hfound, -, hcandidates⟩ := exists_complete_sign sources hserved hpoint
  refine ⟨found, others, hfound, ?_, hlower⟩
  rw [hcandidates, hoffset]
  show Pool.merge (separatorPools .member text offset separator sources).1 = _
  rw [hpools]
  exact hmerge

/-- Above a line a name is declared as a table constructor, and on the line a chain that begins with
the name and leads through keys to a constructor is typed up to a point. If neither functions nor
members are known for the last name of the chain, the keys of that constructor are offered first, in
the order in which they are written, and nothing else in their tier. -/
theorem complete_members (hserved : reason = .idle → whenIdle = true)
    (hdistinct : fields.DistinctKeys) (hat : fields.at? path = some inner)
    (hpath : ∀ key ∈ path, IsSegment key) (hlast : (name.text :: path).getLast? = some last)
    (hwritten : Word.Written (Statement.declareTable name fields).words above)
    (hfront : BeginsBehind front)
    (htext : text = above ++ (front ++ dotted (name.text :: path)) ++ behind)
    (hcursor : cursor = (above ++ (front ++ dotted (name.text :: path))).length)
    (hline : Document.lineStart text (Document.lineOf text cursor) = above.length)
    (howner : ∀ signature ∈ sources.visible, signature.owner ≠ some last)
    (hmembers : sources.members.membersOf last = []) :
    ∃ found others, complete? text cursor reason whenIdle sources = some found ∧
      found.candidates = inner.keys.map (⟨·, .variable, 4⟩) ++ others ∧
      ∀ other ∈ others, other.tier < 4 := by
  have hinside : min cursor text.length = cursor := by
    refine Nat.min_eq_left ?_
    rw [hcursor, htext]
    exact (List.prefix_append _ behind).length_le
  have htyped : text.take cursor = above ++ front ++ dotted (name.text :: path) := by
    rw [htext, hcursor, List.take_left, List.append_assoc]
  have habove : text.take (Document.lineStart text (Document.lineOf text cursor)) = above := by
    rw [hline, htext, List.append_assoc, List.take_left]
  -- The chain is read as it is typed.
  have hsegments : ∀ segment ∈ name.text :: path, IsSegment segment :=
    List.forall_mem_cons.mpr ⟨name.isSegment, hpath⟩
  have hclosed : Word.Written ((Word.keyword "local" :: name.word :: Word.sign "=" ::
      Word.sign "\x7b" :: fields.words) ++ [Word.sign "\x7d"]) above := hwritten
  have hbegins : BeginsBehind (above ++ front) := .of_written hclosed hfront
  have hread := TypedChain.segments_read hsegments hbegins htyped
  obtain ⟨init, hchain⟩ := List.getLast?_eq_some_iff.mp hlast
  obtain ⟨separator, hplace, hreceiver⟩ := placeAt_dotted
    (hsegments last (hchain ▸ List.mem_append_right _ (List.mem_singleton_self last))) hbegins
    (hchain ▸ htyped)
  -- What is known about the chain is what the declaration says.
  have hcollected : Binding.collect (Word.before text cursor) =
      (Statement.declareTable name fields).bindings := by
    have hprogram : Word.Written (Program.words [Statement.declareTable name fields])
        (text.take (Document.lineStart text (Document.lineOf text cursor))) := by
      simpa [Program.words, habove] using hwritten
    simpa [Program.bindings] using Program.collect_written hprogram
  have hkeys : (Scope.visible text cursor).members? (name.text :: path) = some inner.keys := by
    rw [Scope.visible, hcollected]
    exact Program.members?_declareTable name hdistinct hat
  rw [← hinside] at hplace hread hkeys
  exact exists_complete_member hserved hplace hreceiver howner hmembers hread (List.cons_ne_nil _ _)
    hkeys (hdistinct.at? hat).nodup_keys

/-! ## Concrete tables -/

/-- A name of one letter. -/
def letter (c : Char) (hc : Lexer.isNameStart c = true) : Name where
  text := [c]
  starts := by simp [hc]
  parts := by
    intro d hd
    rw [List.mem_singleton.mp hd]
    simp only [Lexer.isNameStart, Bool.or_eq_true, decide_eq_true_eq] at hc
    rcases hc with hc | rfl
    · simp [Lexer.isNamePart, Char.isAlphanum, hc]
    · rfl
  free := by
    rw [Bool.eq_false_iff]
    intro hreserved
    have hlonger : ∀ word ∈ Words.reserved, word.length ≠ 1 := by decide
    exact hlonger [c] (List.contains_iff_mem.mp hreserved) rfl

/-- A table in a table: its keys have a call, a number and a table as values. -/
def innerTable : Fields :=
  let ten : Program.Numeral := ⟨some 'x', ['A'], [], by simp, by decide, by decide, by decide⟩
  let one : Program.Numeral :=
    ⟨some 'x', ['.', '8'], ['p', '1'], by simp, by decide, by decide, by decide⟩
  let x : Program.Literal := ⟨'\'', ['x'], by decide, by decide, by decide⟩
  let l : Program.Literal := ⟨'\'', ['l'], by decide, by decide, by decide⟩
  let q : Fields := .last (.named (letter 'q' rfl)) (.constant .nil)
  .more .positional (.text x) .comma
    (.more (.named (letter 'k' rfl))
      (.call ⟨letter 'f' rfl, []⟩ (.some (.last (.number ten)))) .comma
      (.more (.quoted l (by decide)) (.number one) .semicolon
        (.last (.named (letter 'm' rfl)) (.table q))))

/-- The table around it. -/
def outerTable : Fields :=
  let two : Program.Numeral := ⟨some 'X', ['2'], [], by simp, by decide, by decide, by decide⟩
  let bc : Program.Literal := ⟨'\'', ['b', ' ', 'c'], by decide, by decide, by decide⟩
  .more (.named (letter 'a' rfl)) (.number two) .comma
    (.more (.quoted bc (by decide)) (.table .none) .comma
      (.last (.named (letter 't' rfl)) (.table innerTable)))

/-- The outer table on a line of its own. -/
def outerText : Text :=
  ("local n=\x7ba=0X2,[\x27b c\x27]=\x7b\x7d," ++
    "t=\x7b\x27x\x27,k=f(0xA),[\x27l\x27]=0x.8p1;m=\x7bq=nil\x7d\x7d\x7d\r\n").toList

/-- A function and a member that are known for other names than the last one of the chain. -/
def otherSources : Sources where
  own := []
  visible := Signature.ofText "function n.f() end\nfunction g.t() end".toList
  words := []
  members := .ofText "n x y\nk l".toList
  calls := .empty

/-- The keys of the inner table are offered behind the chain that leads to it. -/
theorem complete_members_inner :
    outerTable.DistinctKeys ∧ outerTable.at? [['t']] = some innerTable ∧ IsSegment ['t'] ∧
      Word.Written (Statement.declareTable (letter 'n' rfl) outerTable).words outerText ∧
      BeginsBehind "\tprint(".toList ∧
      (∀ signature ∈ otherSources.visible, signature.owner ≠ some ['t']) ∧
      otherSources.members.membersOf ['t'] = [] ∧
      ∃ found others,
        complete? (outerText ++ "\tprint(n.t. --".toList) 79 .idle true otherSources = some found ∧
        found.candidates = [⟨['k'], .variable, 4⟩, ⟨['l'], .variable, 4⟩, ⟨['m'], .variable, 4⟩] ++
          others ∧
        ∀ other ∈ others, other.tier < 4 := by
  have hdistinct : outerTable.DistinctKeys := by
    simp [outerTable, innerTable, letter, Fields.DistinctKeys, Program.Expression.DistinctKeys,
      Fields.keys, Program.Key.name?]
  have hat : outerTable.at? [['t']] = some innerTable := rfl
  have hsegment : IsSegment ['t'] := ⟨by decide, by decide +kernel, rfl⟩
  have hwritten : Word.Written (Statement.declareTable (letter 'n' rfl) outerTable).words
      outerText := .of_isWritten (by decide +kernel)
  have hfront : BeginsBehind "\tprint(".toList := ⟨by decide +kernel, Or.inr (by decide +kernel)⟩
  have howner : ∀ signature ∈ otherSources.visible, signature.owner ≠ some ['t'] := by
    decide +kernel
  have hmembers : otherSources.members.membersOf ['t'] = [] := by decide +kernel
  have htext : outerText ++ "\tprint(n.t. --".toList =
      outerText ++ ("\tprint(".toList ++ dotted [['n'], ['t']]) ++ " --".toList := rfl
  exact ⟨hdistinct, hat, hsegment, hwritten, hfront, howner, hmembers,
    complete_members (fun _ => rfl) hdistinct hat (by simpa using hsegment) rfl hwritten hfront
      htext rfl (by decide +kernel) howner hmembers⟩

/-- What is offered at the end of a text if nothing is known but the text. -/
def offeredBehind (text : String) : List Candidate :=
  ((complete? text.toList text.toList.length .explicit true ⟨[], [], [], .empty, .empty⟩).map
    candidates).getD []

/-- The members of the typed chain are all that is offered in their tier. -/
theorem prefix_of_offeredBehind {text : String} {separator : Nat} {chain : Chain}
    {keys texts : List Text}
    (hplace : placeAt text.toList text.toList.length = (.member, some separator))
    (hread : (TypedChain.read text.toList text.toList.length).segments = chain) (hne : chain ≠ [])
    (hkeys : (Scope.visible text.toList text.toList.length).members? chain = some keys)
    (hnodup : keys.Nodup)
    (hoffered : texts.map (⟨·, .variable, 4⟩) <+: offeredBehind text) : texts <+: keys := by
  obtain ⟨found, others, hfound, hcandidates, hlower⟩ : ∃ found others,
      complete? text.toList text.toList.length .explicit true ⟨[], [], [], .empty, .empty⟩ =
          some found ∧
        found.candidates = keys.map (⟨·, .variable, 4⟩) ++ others ∧
        ∀ other ∈ others, other.tier < 4 :=
    exists_complete_member (fun _ => rfl) (by rwa [Nat.min_self]) rfl (List.forall_mem_nil _) rfl
      (by rwa [Nat.min_self]) hne (by rwa [Nat.min_self]) hnodup
  rw [offeredBehind, hfound, Option.map_some, Option.getD_some, hcandidates] at hoffered
  clear hkeys hcandidates hnodup
  induction texts generalizing keys with
  | nil => exact List.nil_prefix
  | cons first texts ih =>
    cases keys with
    | nil =>
      have hmem := hoffered.subset List.mem_cons_self
      exact absurd (hlower _ hmem) (Nat.lt_irrefl 4)
    | cons key keys =>
      obtain ⟨heq, hrest⟩ := List.cons_prefix_cons.mp hoffered
      exact List.cons_prefix_cons.mpr ⟨congrArg Candidate.text heq, ih hrest⟩

/-- What is not offered so: the empty key gives no member, a key loses quotes at its ends, a string
that a line ends within is read line by line, and a vertical tab is no blank. -/
theorem complete_members_misses :
    ¬ [⟨[], .variable, 4⟩, ⟨['a'], .variable, 4⟩] <+:
        offeredBehind "local n = \x7b[\"\"] = 1, a = 2\x7d\nn." ∧
      ¬ [⟨['\'', 'x'], .variable, 4⟩, ⟨['a'], .variable, 4⟩] <+:
        offeredBehind "local n = \x7b[\"\x27x\"] = 1, a = 2\x7d\nn." ∧
      ¬ [⟨['a'], .variable, 4⟩, ⟨['c'], .variable, 4⟩] <+:
        offeredBehind "local n = \x7ba = \"\u2028 b\", c = 1\x7d\nn." ∧
      ¬ [⟨['a'], .variable, 4⟩] <+: offeredBehind "local n = \x7b\x0ba = 1\x7d\nn." := by
  have hmisses : ∀ (text : String) (separator : Nat) (keys texts : List Text),
      placeAt text.toList text.toList.length = (.member, some separator) →
      (TypedChain.read text.toList text.toList.length).segments = [['n']] →
      (Scope.visible text.toList text.toList.length).members? [['n']] = some keys →
      keys.Nodup → ¬ texts <+: keys →
      ¬ texts.map (⟨·, .variable, 4⟩) <+: offeredBehind text :=
    fun _ _ _ _ hplace hread hkeys hnodup hother hoffered =>
      hother (prefix_of_offeredBehind hplace hread (List.cons_ne_nil _ _) hkeys hnodup hoffered)
  refine ⟨hmisses _ 29 [['a']] [[], ['a']] ?_ ?_ ?_ ?_ ?_,
    hmisses _ 31 [['x'], ['a']] [['\'', 'x'], ['a']] ?_ ?_ ?_ ?_ ?_,
    hmisses _ 30 [['a']] [['a'], ['c']] ?_ ?_ ?_ ?_ ?_,
    hmisses _ 20 [] [['a']] ?_ ?_ ?_ ?_ ?_⟩ <;> decide +kernel

end Completion

end LuaAssist

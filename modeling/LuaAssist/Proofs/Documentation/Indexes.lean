import LuaAssist.Documentation
import LuaAssist.Proofs.Lookup
import LuaAssist.Proofs.Text.Pieces
import LuaAssist.Proofs.Text.Trim
import Mathlib.Data.List.Forall2
import Mathlib.Data.List.Induction

/-!
# Indexes of documentation files

The tables of a documentation file are built in one pass over its lines. What they answer is told
here by the list of the entries alone: the calls of a name or of an owner are those of the list,
and the members of a type are those of its last line. Name and owner of a call are what stands
around the last separator of the name that is written.
-/

namespace LuaAssist.Documentation

variable {text line : Text} {call : Call} {calls : List Call} {lines : List Text}

/-! ## Lines without carriage returns at the end -/

/-- What is dropped at the end of a line is a run of carriage returns. -/
theorem dropReturns_append_returns (line : Text) :
    dropReturns line ++ (line.reverse.takeWhile (· = '\r')).reverse = line := by
  rw [dropReturns, ← List.reverse_append, List.takeWhile_append_dropWhile, List.reverse_reverse]

/-! ## Names and owners -/

/-- Blanks have no words. -/
theorem filter_splitOn_blanks {blanks : Text} (hblanks : ∀ c ∈ blanks, Text.isBlank c = true) :
    (Text.splitOn Text.isBlank blanks).filter (fun word => !word.isEmpty) = [] := by
  induction blanks with
  | nil => rfl
  | cons c rest ih =>
    rw [List.forall_mem_cons] at hblanks
    rw [Text.splitOn_cons_separator hblanks.1, List.filter_cons_of_neg (by simp), ih hblanks.2]

/-- A text of blanks has no last word. -/
theorem lastWord?_of_blanks {blanks : Text} (hblanks : ∀ c ∈ blanks, Text.isBlank c = true) :
    lastWord? blanks = none := by
  rw [lastWord?, filter_splitOn_blanks hblanks, List.getLast?_nil]

/-- A word between blanks is the last one if only blanks follow it. -/
theorem lastWord?_append {front word blanks : Text} (hne : word ≠ [])
    (hfront : ∀ c ∈ front.getLast?, Text.isBlank c = true)
    (hword : ∀ c ∈ word, Text.isBlank c = false)
    (hblanks : ∀ c ∈ blanks, Text.isBlank c = true) :
    lastWord? (front ++ (word ++ blanks)) = some word := by
  have hbehind : (Text.splitOn Text.isBlank (word ++ blanks)).filter
      (fun word => !word.isEmpty) = [word] := by
    cases blanks with
    | nil => simp [Text.splitOn_of_inner hword, hne]
    | cons c rest =>
      rw [List.forall_mem_cons] at hblanks
      rw [Text.splitOn_append_separator hblanks.1, Text.splitOn_of_inner hword, List.filter_append,
        filter_splitOn_blanks hblanks.2]
      simp [hne]
  rcases List.eq_nil_or_concat front with rfl | ⟨front, c, rfl⟩
  · rw [List.nil_append, lastWord?, hbehind]
    rfl
  · have hc : Text.isBlank c = true := hfront c (by simp)
    rw [List.concat_eq_append, List.append_assoc, List.singleton_append, lastWord?,
      Text.splitOn_append_separator hc, List.filter_append, hbehind, List.getLast?_concat]

/-- A sign between an owner and a name. -/
def isSeparator (c : Char) : Bool := c = ':' || c = '.'

/-- What follows the last separator is the leaf, and the last word in front of it is the owner. -/
theorem splitName_append {front leaf : Text} {separator : Char}
    (hseparator : isSeparator separator = true) (hleaf : ∀ c ∈ leaf, isSeparator c = false) :
    splitName (front ++ separator :: leaf) = (lastWord? front, leaf) := by
  have hany : (front ++ separator :: leaf).any isSeparator = true := by simp [hseparator]
  -- Read backwards, the name begins with its leaf.
  have hname : ((front ++ separator :: leaf).reverse.takeWhile fun c => !isSeparator c).reverse =
      leaf := by
    rw [List.reverse_append, List.reverse_cons, List.append_assoc,
      List.takeWhile_append_of_pos (by simpa using hleaf), List.singleton_append,
      List.takeWhile_cons_of_neg (by simp [hseparator]), List.append_nil, List.reverse_reverse]
  have hfront : (front ++ separator :: leaf).take
      ((front ++ separator :: leaf).length - leaf.length - 1) = front :=
    List.take_left' (by simp only [List.length_append, List.length_cons]; omega)
  have hsplit : splitName (front ++ separator :: leaf) =
      (lastWord? ((front ++ separator :: leaf).take ((front ++ separator :: leaf).length -
        ((front ++ separator :: leaf).reverse.takeWhile fun c => !isSeparator c).reverse.length -
          1)), ((front ++ separator :: leaf).reverse.takeWhile fun c => !isSeparator c).reverse) :=
    if_pos hany
  rw [hsplit, hname, hfront]

/-- Without a separator there is no owner, and the last word is the leaf. -/
theorem splitName_of_inner {qualified : Text} (hinner : ∀ c ∈ qualified, isSeparator c = false) :
    splitName qualified = (none, (lastWord? qualified).getD []) := by
  have hany : ¬ qualified.any isSeparator = true := by simpa using hinner
  exact if_neg hany

/-- A text has a last separator or none. -/
theorem cut_or_inner (text : Text) :
    (∃ front separator leaf, text = front ++ separator :: leaf ∧ isSeparator separator = true ∧
        ∀ c ∈ leaf, isSeparator c = false) ∨
      ∀ c ∈ text, isSeparator c = false := by
  induction text with
  | nil => exact Or.inr (List.forall_mem_nil _)
  | cons c rest ih =>
    rcases ih with ⟨front, separator, leaf, rfl, hcut⟩ | hinner
    · exact Or.inl ⟨c :: front, separator, leaf, rfl, hcut⟩
    · cases hc : isSeparator c with
      | true => exact Or.inl ⟨[], c, rest, rfl, hc, hinner⟩
      | false => exact Or.inr (List.forall_mem_cons.mpr ⟨hc, hinner⟩)

/-- Every name is cut at its last separator, of whose front the last word is the owner, or it has
no separator and no owner. -/
theorem splitName_cases (qualified : Text) :
    (∃ front separator leaf, qualified = front ++ separator :: leaf ∧
        isSeparator separator = true ∧ (∀ c ∈ leaf, isSeparator c = false) ∧
        splitName qualified = (lastWord? front, leaf)) ∨
      (∀ c ∈ qualified, isSeparator c = false) ∧
        splitName qualified = (none, (lastWord? qualified).getD []) := by
  rcases cut_or_inner qualified with ⟨front, separator, leaf, rfl, hseparator, hleaf⟩ | hinner
  · exact Or.inl ⟨front, separator, leaf, rfl, hseparator, hleaf,
      splitName_append hseparator hleaf⟩
  · exact Or.inr ⟨hinner, splitName_of_inner hinner⟩

/-- Of an owner in several words the last one counts. -/
example : splitName "static Galaxy:sector".toList = (some "Galaxy".toList, "sector".toList) := by
  decide +kernel

/-- A call has the owner and the leaf of the name that is written. -/
theorem splitName_of_ofLine? (hcall : Call.ofLine? line = some call) :
    splitName call.qualifiedName = (call.owner, call.name) := by
  unfold Call.ofLine? at hcall
  split at hcall
  · cases hcall
  · split at hcall
    · cases hcall
    · cases hcall
      rfl

/-! ## Calls -/

/-- A line has a name if something that is not blank stands in front of its first bar. -/
def hasName (line : Text) : Bool := (line.takeWhile (· ≠ '|')).any fun c => !Text.isBlank c

/-- Carriage returns at the end of a line are blank, and a name needs something else. -/
theorem hasName_dropReturns (line : Text) : hasName (dropReturns line) = hasName line := by
  have hblank : ((line.reverse.takeWhile (· = '\r')).reverse.takeWhile (· ≠ '|')).any
      (fun c => !Text.isBlank c) = false := by
    refine List.any_eq_false.mpr fun c hc => ?_
    have hreturn := List.mem_takeWhile_imp (List.mem_reverse.mp (List.takeWhile_subset _ hc))
    rw [of_decide_eq_true hreturn]
    decide
  conv_rhs => rw [← dropReturns_append_returns line]
  rw [hasName, hasName, List.takeWhile_append]
  split
  case isTrue hwhole =>
    rw [List.any_append, hblank, Bool.or_false,
      (List.takeWhile_prefix _).eq_of_length hwhole]
  case isFalse => rfl

/-- A line documents a call if it has a name. -/
theorem isSome_ofLine? (line : Text) : (Call.ofLine? line).isSome = hasName line := by
  obtain ⟨name, rest, hpieces⟩ := Text.exists_splitOn_eq (· = '|') line
  have hname : name = line.takeWhile (· ≠ '|') := by
    have hhead := Text.head?_splitOn (· = '|') line
    rw [hpieces, List.head?_cons, Option.some.injEq] at hhead
    simpa using hhead
  have hempty : (Text.trim name).isEmpty = !hasName line := by
    rw [hasName, ← hname, Bool.eq_iff_iff]
    simp [Text.trim_eq_nil_iff]
  rw [Call.ofLine?, hpieces, List.map_cons]
  dsimp only
  rw [hempty]
  cases hasName line <;> rfl

namespace CallTable

/-- A table lists calls: their names in order, and for every name and every owner the calls that
have it, in order too. -/
structure Lists (table : CallTable) (calls : List Call) : Prop where
  words : table.words = calls.map Call.name
  named : ∀ name, table.named name = calls.filter (·.name = name)
  ownedBy : ∀ owner, table.ownedBy owner = calls.filter (·.owner = some owner)

/-- A call that is added comes last. -/
theorem Lists.add {table : CallTable} (hlists : table.Lists calls) (call : Call) :
    (table.add call).Lists (calls ++ [call]) where
  words := by
    rw [CallTable.add, hlists.words, List.map_append]
    rfl
  named := by
    intro name
    have hnamed := hlists.named name
    rw [CallTable.named] at hnamed ⊢
    rw [CallTable.add, Keyed.get?_push, List.filter_append, ← hnamed, List.filter_singleton]
    by_cases hname : call.name = name
    · simp [hname]
    · simp [hname, Ne.symm hname]
  ownedBy := by
    intro owner
    have howned := hlists.ownedBy owner
    rw [CallTable.ownedBy] at howned ⊢
    rw [List.filter_append, ← howned, List.filter_singleton, CallTable.add]
    cases hown : call.owner with
    | none => simp
    | some other =>
      rw [Keyed.get?_push]
      by_cases hother : other = owner
      · simp [hother]
      · simp [hother, Ne.symm hother]

/-- Calls that are added to the empty table are listed. -/
theorem lists_foldl_add (calls : List Call) : (calls.foldl add empty).Lists calls := by
  induction calls using List.reverseRecOn with
  | nil => exact ⟨rfl, fun _ => rfl, fun _ => rfl⟩
  | append_singleton calls call ih =>
    rw [List.foldl_concat]
    exact ih.add call

/-- A call is found under its name, as often as it is listed. -/
theorem Lists.count_named {table : CallTable} (hlists : table.Lists calls) (call : Call)
    (name : Text) :
    (table.named name).count call = if call.name = name then calls.count call else 0 := by
  rw [hlists.named]
  split
  case isTrue hname => exact List.count_filter (decide_eq_true hname)
  case isFalse hname =>
    exact List.count_eq_zero.mpr fun hmem => hname (of_decide_eq_true (List.mem_filter.mp hmem).2)

/-- A call is found under its owner, as often as it is listed. -/
theorem Lists.count_ownedBy {table : CallTable} (hlists : table.Lists calls) (call : Call)
    (owner : Text) :
    (table.ownedBy owner).count call =
      if call.owner = some owner then calls.count call else 0 := by
  rw [hlists.ownedBy]
  split
  case isTrue howner => exact List.count_filter (decide_eq_true howner)
  case isFalse howner =>
    exact List.count_eq_zero.mpr fun hmem => howner (of_decide_eq_true (List.mem_filter.mp hmem).2)

/-- The calls that the lines of a file document. -/
theorem ofText_eq_foldl (text : Text) :
    ofText text = ((Text.lines text).filterMap fun line => Call.ofLine? (dropReturns line)).foldl
      add empty := by
  have hempty (line : Text) :
      (if (!line.isEmpty) = true then Call.ofLine? line else none) = Call.ofLine? line := by
    cases line with
    | nil => rfl
    | cons c rest => rfl
  rw [ofText, Documentation.words, List.filterMap_filter, List.filterMap_map]
  exact congrArg _ (List.filterMap_congr fun line _ => hempty (dropReturns line))

/-- The table of a line alone lists the call of the line. -/
theorem lists_ofText_line (hfeed : '\n' ∉ line)
    (hcall : Call.ofLine? (dropReturns line) = some call) : (ofText line).Lists [call] := by
  have hline : (Text.lines line).filterMap (fun line => Call.ofLine? (dropReturns line)) =
      [call] := by
    cases line with
    | nil => cases hcall
    | cons c rest =>
      rw [Text.lines_of_line hfeed]
      simp [hcall]
  rw [ofText_eq_foldl, hline]
  exact lists_foldl_add [call]

end CallTable

/-- Each line that a choice is made from is kept beside what is chosen for it. -/
theorem forall₂_filter_filterMap {α β : Type} {related : α → β → Prop} {choose : α → Option β}
    {items : List α}
    (hchoose : ∀ item ∈ items, ∀ chosen, choose item = some chosen → related item chosen) :
    List.Forall₂ related (items.filter fun item => (choose item).isSome)
      (items.filterMap choose) := by
  induction items with
  | nil => exact .nil
  | cons item items ih =>
    have hrest := ih fun other hmem => hchoose other (List.mem_cons_of_mem item hmem)
    cases hchosen : choose item with
    | none => rwa [List.filter_cons_of_neg (by simp [hchosen]), List.filterMap_cons_none hchosen]
    | some chosen =>
      rw [List.filter_cons_of_pos (by simp [hchosen]), List.filterMap_cons_some hchosen]
      exact .cons (hchoose item List.mem_cons_self chosen hchosen) hrest

/-! ## Members -/

/-- The words of a line between spaces: a type and its members. -/
def wordsOfLine (line : Text) : List Text :=
  (Text.splitOn (· = ' ') (dropReturns line)).filter fun part => !part.isEmpty

namespace MemberTable

/-- A table lists lines: their members in order, and for every type the members of the last line
that begins with it. -/
structure Lists (table : MemberTable) (lines : List Text) : Prop where
  words : table.words = lines.flatMap fun line => (wordsOfLine line).tail
  membersOf : ∀ type, table.membersOf type =
    ((lines.filter fun line => (wordsOfLine line).head? = some type).getLast?.elim [] fun line =>
      (wordsOfLine line).tail)

/-- A line that is added comes last. -/
theorem Lists.addLine {table : MemberTable} (hlists : table.Lists lines) (line : Text) :
    (table.addLine (dropReturns line)).Lists (lines ++ [line]) := by
  unfold MemberTable.addLine
  split
  case h_1 hwords =>
    change wordsOfLine line = [] at hwords
    refine ⟨?_, fun type => ?_⟩
    · rw [hlists.words, List.flatMap_append, List.flatMap_singleton, hwords, List.tail_nil,
        List.append_nil]
    · rw [hlists.membersOf, List.filter_append, List.filter_singleton, hwords]
      simp
  case h_2 type members hwords =>
    change wordsOfLine line = type :: members at hwords
    refine ⟨?_, fun other => ?_⟩
    · rw [hlists.words, List.flatMap_append, List.flatMap_singleton, hwords, List.tail_cons]
    · have hother := hlists.membersOf other
      rw [MemberTable.membersOf] at hother ⊢
      rw [Keyed.get?_set, List.filter_append, List.filter_singleton, hwords]
      by_cases htype : other = type
      · simp [htype, hwords]
      · simp [htype, Ne.symm htype, hother]

/-- The table of a file lists its lines. -/
theorem lists_ofText (text : Text) : (ofText text).Lists (Text.lines text) := by
  have hlines : ofText text =
      (Text.lines text).foldl (fun table line => table.addLine (dropReturns line)) empty := by
    have hempty (table : MemberTable) (line : Text) :
        (if (!line.isEmpty) = true then table.addLine line else table) = table.addLine line := by
      cases line with
      | nil => rfl
      | cons c rest => rfl
    rw [ofText, Documentation.words, List.foldl_filter, List.foldl_map]
    simp only [hempty]
  rw [hlines]
  induction Text.lines text using List.reverseRecOn with
  | nil => exact ⟨rfl, fun _ => rfl⟩
  | append_singleton lines line ih =>
    rw [List.foldl_concat]
    exact ih.addLine line

end MemberTable

/-! ## Both indexes -/

/-- The calls of a file are those that its lines with a name document alone, in order. All names,
the calls of a name and the calls of an owner are told by this list, so a call is found under its
name, and under its owner if it has one, as often as it is documented, and nowhere else. The
members of a type are those of the last line that begins with it, and all members are those of all
lines. -/
theorem indexes_eq_filters (text : Text) :
    (∃ calls, List.Forall₂ (fun line call => (CallTable.ofText line).Lists [call])
        ((Text.lines text).filter hasName) calls ∧
      (CallTable.ofText text).Lists calls ∧
      (∀ call name, ((CallTable.ofText text).named name).count call =
        if call.name = name then calls.count call else 0) ∧
      ∀ call owner, ((CallTable.ofText text).ownedBy owner).count call =
        if call.owner = some owner then calls.count call else 0) ∧
    (MemberTable.ofText text).Lists (Text.lines text) := by
  have hlists : (CallTable.ofText text).Lists _ :=
    CallTable.ofText_eq_foldl text ▸ CallTable.lists_foldl_add _
  have hnamed : (Text.lines text).filter hasName =
      (Text.lines text).filter fun line => (Call.ofLine? (dropReturns line)).isSome :=
    List.filter_congr fun line _ => by rw [isSome_ofLine?, hasName_dropReturns]
  refine ⟨⟨_, ?_, hlists, hlists.count_named, hlists.count_ownedBy⟩,
    MemberTable.lists_ofText text⟩
  rw [hnamed]
  refine forall₂_filter_filterMap fun line hline call hcall => ?_
  exact CallTable.lists_ofText_line (Text.feed_not_mem_of_mem_lines hline) hcall

end LuaAssist.Documentation

import LuaAssist.Proofs.Require.Written
import LuaAssist.Proofs.Text.Trim

/-!
# What a file declares

The references of a file are names in quotes in front of the comments of their lines, in the order
in which they stand and without overlap, and none that is written on a line of references is
missing. The search patterns are different, trimmed and have one placeholder each.
-/

namespace LuaAssist

/-- A longer front of a text takes more bytes. -/
theorem Text.utf8Length_take_lt {text : Text} {place other : Nat} (hlt : place < other)
    (hinside : other ≤ text.length) :
    utf8Length (text.take place) < utf8Length (text.take other) := by
  have hsplit : text.take other = text.take place ++ (text.drop place).take (other - place) := by
    rw [← List.take_add, Nat.add_sub_cancel' (Nat.le_of_lt hlt)]
  have hmore : utf8Length ((text.drop place).take (other - place)) ≠ 0 := by
    rw [ne_eq, utf8Length_eq_zero, ← List.length_eq_zero_iff, List.length_take, List.length_drop]
    omega
  rw [hsplit, utf8Length_append]
  omega

/-- The bytes of a text are found behind those of what stands in front of it. -/
theorem Text.take_drop_toUtf8 (front text behind : Text) :
    ((toUtf8 (front ++ (text ++ behind))).drop (utf8Length front)).take (toUtf8 text).length =
      toUtf8 text := by
  rw [toUtf8_append, ← length_toUtf8, List.drop_left, toUtf8_append, List.take_left]

/-- The first comment begins behind the text before it. -/
theorem LineScan.commentStart?_eq {scan : LineScan} {start : Nat}
    (hstart : start ∈ scan.commentStart?) : start = Text.utf8Length scan.beforeComment := by
  have hfrom : ∀ (base : Nat) (tokens : List Token),
      start ∈ ((spansFrom base tokens).find? fun span => span.kind.isComment).map Span.start →
      start = base + Text.utf8Length
        ((tokens.takeWhile fun token => !token.kind.isComment).map Token.text).flatten := by
    intro base tokens hfound
    induction tokens generalizing base with
    | nil => cases hfound
    | cons token tokens ih =>
      rw [spansFrom, List.find?_cons] at hfound
      rw [List.takeWhile_cons]
      cases hkind : token.kind.isComment with
      | true =>
        simp only [hkind] at hfound
        cases hfound
        rfl
      | false =>
        simp only [hkind] at hfound
        rw [ih _ hfound]
        simp [Text.utf8Length_append, Nat.add_assoc]
  rw [hfrom 0 scan.tokens hstart, Nat.zero_add, beforeComment]

namespace Require

/-! ## One line -/

/-- A reference is a name on a line: the name has characters and stands where the reference says,
between two equal quotes that it does not have, and in front of the first comment. -/
structure StandsOn (reference : Reference) (line : Text) : Prop where
  name_ne_nil : reference.name ≠ []
  quoted : ∃ front quote behind, isQuote quote = true ∧ quote ∉ reference.name ∧
    line = front ++ quote :: (reference.name ++ quote :: behind) ∧
    reference.column = Text.utf8Length (front ++ [quote])
  bytes : ((Text.toUtf8 line).drop reference.column).take (Text.toUtf8 reference.name).length =
    Text.toUtf8 reference.name
  uncommented : ∀ start ∈ (Lexer.scan line .code).commentStart?, reference.column < start

/-- One reference ends in front of another. -/
def Precedes (reference other : Reference) : Prop :=
  reference.line < other.line ∨ reference.line = other.line ∧
    reference.column + Text.utf8Length reference.name < other.column

/-- The references of a line stand on it. -/
theorem standsOn_of_mem_ofLine {number : Nat} {line : Text} {reference : Reference}
    (hmem : reference ∈ ofLine number line) :
    reference.line = number ∧ StandsOn reference line := by
  obtain ⟨⟨offset, name⟩, hcall, rfl⟩ := List.mem_map.mp hmem
  have hinside : offset < (Signature.codeOf line).length := by
    simpa using List.mem_takeWhile_imp hcall
  obtain ⟨front, rest, last?, skipped, hsplit, hfirst, rfl⟩ :=
    exists_call_of_mem_callsFrom (List.takeWhile_subset _ hcall)
  obtain ⟨-, between, quote, after, -, hquote, hname, hne, rfl, rfl⟩ := call?_eq_some_iff.mp hfirst
  have hline : line = (front ++ word ++ between) ++ quote :: (name ++ quote :: after) := by
    simp [hsplit]
  have htake : line.take (0 + front.length + (word.length + between.length + 1)) =
      front ++ word ++ between ++ [quote] := by
    rw [hline, List.append_cons, List.take_left' (by simp; omega)]
  refine ⟨rfl, hne, ⟨_, quote, after, hquote, hname, hline, congrArg _ htake⟩, ?_, ?_⟩
  · rw [List.append_cons] at hline
    dsimp only
    rw [htake, hline, Text.take_drop_toUtf8]
  · intro start hstart
    obtain ⟨behind, hbehind, -⟩ := Signature.exists_behind_codeOf line
    have hcode : Signature.codeOf line <+: line := ⟨behind, hbehind.symm⟩
    have hbefore := Text.utf8Length_take_lt hinside hcode.length_le
    rw [← List.prefix_iff_eq_take.mp hcode] at hbefore
    rw [LineScan.commentStart?_eq hstart]
    exact hbefore

/-- What is found is found from left to right. -/
theorem pairwise_callsFrom (before? : Option Char) (offset : Nat) (text : Text) :
    (callsFrom before? offset text).Pairwise fun call other =>
      call.1 + call.2.length < other.1 := by
  fun_induction callsFrom before? offset text with
  | case1 => exact List.Pairwise.nil
  | case2 before? offset c rest skipped name hcall ih =>
    refine List.pairwise_cons.mpr ⟨?_, ih⟩
    rintro ⟨found, other⟩ hmem
    obtain ⟨-, place, rfl, -⟩ := callsFrom_spec hmem
    dsimp only
    omega
  | case3 before? offset c rest hcall ih => exact ih

/-- The references of a line do not overlap. -/
theorem pairwise_ofLine (number : Nat) (line : Text) :
    (ofLine number line).Pairwise Precedes := by
  have hcalls := (pairwise_callsFrom none 0 line).sublist (List.takeWhile_sublist
    fun call => decide (call.1 < (Signature.codeOf line).length))
  refine List.pairwise_map.mpr (hcalls.imp_of_mem ?_)
  rintro ⟨offset, name⟩ ⟨other, next⟩ hmem hnext hapart
  obtain ⟨-, place, rfl, hplace⟩ := callsFrom_spec (List.takeWhile_subset _ hmem)
  obtain ⟨-, beyond, rfl, hbeyond⟩ := callsFrom_spec (List.takeWhile_subset _ hnext)
  have hlength := hbeyond.lt_length
  have hread : (line.drop place).take name.length = name := hplace.textAt
  simp only [Nat.zero_add] at hapart ⊢
  have hbytes := @Text.utf8Length_take_lt line _ _ hapart (by omega)
  rw [List.take_add, hread, Text.utf8Length_append] at hbytes
  exact Or.inr ⟨rfl, hbytes⟩

/-! ## All lines -/

/-- References on numbered lines are not in front of the first of these lines. -/
theorem le_line_of_mem_referencesFrom {number : Nat} {lines : List Text} {reference : Reference}
    (hmem : reference ∈ referencesFrom number lines) : number ≤ reference.line := by
  obtain ⟨index, line, -, hmem⟩ := exists_line_of_referencesFrom hmem
  rw [(standsOn_of_mem_ofLine hmem).1]
  exact Nat.le_add_right number index

/-- The references of numbered lines do not overlap. -/
theorem pairwise_referencesFrom (number : Nat) (lines : List Text) :
    (referencesFrom number lines).Pairwise Precedes := by
  induction lines generalizing number with
  | nil => exact List.Pairwise.nil
  | cons line lines ih =>
    refine List.pairwise_append.mpr ⟨pairwise_ofLine number line, ih (number + 1), ?_⟩
    intro reference hmem other hother
    have hline := (standsOn_of_mem_ofLine hmem).1
    have hbeyond := le_line_of_mem_referencesFrom hother
    exact Or.inl (by omega)

/-- The references with the number of a line are those of the line. -/
theorem filter_referencesFrom {number index : Nat} {lines : List Text} {line : Text}
    (hline : lines[index]? = some line) :
    (referencesFrom number lines).filter (fun reference => reference.line = number + index) =
      ofLine (number + index) line := by
  induction lines generalizing number index with
  | nil => cases hline
  | cons first lines ih =>
    rw [referencesFrom, List.filter_append]
    cases index with
    | zero =>
      obtain rfl : first = line := by simpa using hline
      rw [List.filter_eq_self.mpr, List.filter_eq_nil_iff.mpr, List.append_nil, Nat.add_zero]
      · intro reference hmem
        have hbeyond := le_line_of_mem_referencesFrom hmem
        simpa using by omega
      · intro reference hmem
        simpa using (standsOn_of_mem_ofLine hmem).1
    | succ index =>
      have hrest := @ih (number + 1) index (by simpa using hline)
      have hnumber : number + 1 + index = number + (index + 1) := by omega
      rw [hnumber] at hrest
      rw [hrest, List.filter_eq_nil_iff.mpr, List.nil_append]
      intro reference hmem
      have hfirst := (standsOn_of_mem_ofLine hmem).1
      simpa using by omega

/-! ## Search patterns -/

/-- The entries of an assigned path are trimmed. -/
theorem trim_of_mem_entries {assigned entry : Text} (hmem : entry ∈ entries assigned) :
    Text.trim entry = entry := by
  obtain ⟨content, -, hmem⟩ := List.mem_flatMap.mp hmem
  obtain ⟨piece, -, rfl⟩ := List.mem_map.mp hmem
  exact Text.trim_trim piece

/-- Search patterns are different, and each is trimmed and has one placeholder. -/
structure AreSearched (placeholder : Char) (patterns : List Text) : Prop where
  nodup : patterns.Nodup
  trim_eq : ∀ pattern ∈ patterns, Text.trim pattern = pattern
  count_eq : ∀ pattern ∈ patterns, pattern.count placeholder = 1

/-- A trimmed entry that is added leaves them so. -/
theorem AreSearched.addPattern {placeholder : Char} {patterns : List Text} {entry : Text}
    (hpatterns : AreSearched placeholder patterns) (hentry : Text.trim entry = entry) :
    AreSearched placeholder (addPattern placeholder patterns entry) := by
  unfold Require.addPattern
  split
  · rename_i hnew
    obtain ⟨hcount, hother⟩ : entry.count placeholder = 1 ∧ entry ∉ patterns := by simpa using hnew
    refine ⟨List.nodup_append.mpr ⟨hpatterns.nodup, List.pairwise_singleton _ entry, ?_⟩, ?_, ?_⟩
    · rintro pattern hmem _ hentry rfl
      exact hother (List.mem_singleton.mp hentry ▸ hmem)
    · exact List.forall_mem_append.mpr ⟨hpatterns.trim_eq, List.forall_mem_singleton.mpr hentry⟩
    · exact List.forall_mem_append.mpr ⟨hpatterns.count_eq, List.forall_mem_singleton.mpr hcount⟩
  · exact hpatterns

/-- So are the patterns of all entries. -/
theorem AreSearched.foldl {placeholder : Char} {patterns entries : List Text}
    (hpatterns : AreSearched placeholder patterns)
    (hentries : ∀ entry ∈ entries, Text.trim entry = entry) :
    AreSearched placeholder (entries.foldl (Require.addPattern placeholder) patterns) := by
  induction entries generalizing patterns with
  | nil => exact hpatterns
  | cons entry entries ih =>
    rw [List.forall_mem_cons] at hentries
    exact ih (hpatterns.addPattern hentries.1) hentries.2

/-! ## A whole text -/

/-- The references of a text stand on its lines, in order and without overlap, and on a line of
references just these are found. The search patterns are different, trimmed, and each has one
placeholder. -/
theorem declarations_exact (placeholder : Char) (text : Text) :
    (∀ reference ∈ (declarations placeholder text).references,
        ∃ line, (Text.lines text)[reference.line]? = some line ∧ StandsOn reference line) ∧
      (declarations placeholder text).references.Pairwise Precedes ∧
      AreSearched placeholder (declarations placeholder text).patterns ∧
      ∀ (number : Nat) (calls : List WrittenCall) (tail : Text), IsPlain tail →
        (Text.lines text)[number]? = some (written calls tail) →
          ((declarations placeholder text).references.filter fun reference =>
            reference.line = number) = writtenFrom number 0 calls := by
  refine ⟨fun reference hmem => ?_, pairwise_referencesFrom 0 _, ?_, ?_⟩
  · obtain ⟨index, line, hline, hmem⟩ := exists_line_of_referencesFrom hmem
    obtain ⟨hnumber, hstands⟩ := standsOn_of_mem_ofLine hmem
    rw [Nat.zero_add] at hnumber
    exact ⟨line, hnumber ▸ hline, hstands⟩
  · refine AreSearched.foldl ⟨List.nodup_nil, List.forall_mem_nil _, List.forall_mem_nil _⟩ ?_
    intro entry hmem
    obtain ⟨line, -, hmem⟩ := List.mem_flatMap.mp hmem
    exact trim_of_mem_entries hmem
  · intro number calls tail htail hline
    have hfound := @filter_referencesFrom 0 number _ _ hline
    rw [Nat.zero_add] at hfound
    exact hfound.trans (ofLine_written number calls htail)

/-- Two references on one line: a name with two dashes, the word and the other quote in it, and a
name in parentheses. -/
def severalCalls : List WrittenCall :=
  [{  front := "local ä, b = ".toList
      between := []
      quote := '"'
      name := "a--require 'x'".toList
      isPlain_front := by decide
      front_ends := by decide
      isGap_between := ⟨[], [], by decide, Or.inl rfl⟩
      isQuote_quote := by decide
      name_ne_nil := by decide
      quote_not_mem := by decide
      backslash_not_mem := by decide },
    { front := ", 3e-".toList
      between := " ( ".toList
      quote := '\''
      name := "lib.é".toList
      isPlain_front := by decide
      front_ends := by decide
      isGap_between := ⟨[' '], [' '], by decide, Or.inr rfl⟩
      isQuote_quote := by decide
      name_ne_nil := by decide
      quote_not_mem := by decide
      backslash_not_mem := by decide }]

/-- These references are found, behind a line that assigns the search path. -/
theorem declarations_exact_several :
    IsPlain " )".toList ∧
      (Text.lines ("package.path = '?.lua; ?.lua ;?/?'\n".toList ++
        written severalCalls " )".toList))[1]? = some (written severalCalls " )".toList) ∧
      (declarations '?' ("package.path = '?.lua; ?.lua ;?/?'\n".toList ++
        written severalCalls " )".toList)).references.filter
          (fun reference => reference.line = 1) =
        [⟨"a--require 'x'".toList, 1, 22⟩, ⟨"lib.é".toList, 1, 53⟩] := by
  have hplain : IsPlain " )".toList := by decide
  have hline : (Text.lines ("package.path = '?.lua; ?.lua ;?/?'\n".toList ++
      written severalCalls " )".toList))[1]? = some (written severalCalls " )".toList) := by
    decide +kernel
  exact ⟨hplain, hline, (declarations_exact '?' _).2.2.2 1 severalCalls " )".toList hplain hline⟩

end Require

end LuaAssist

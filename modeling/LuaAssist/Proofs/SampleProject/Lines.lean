import LuaAssist.Proofs.Require.Written
import LuaAssist.Proofs.Signature.Headers
import LuaAssist.Proofs.Text.Decimals
import LuaAssist.SampleProject
import Mathlib.Data.List.Forall2

/-!
# What the modules of a sample project say

The text of a module is put together from lines, and from it the same lines are read. They define
the functions and the methods of the module at equal distances, and they require the next module,
if there is to be one, on the first line.
-/

namespace LuaAssist

/-! ## Blocks of one size -/

section Blocks

/-- A place behind a front is a place of what follows the front. -/
theorem getElem?_append_length_add {α : Type} (front behind : List α) (place : Nat) :
    (front ++ behind)[front.length + place]? = behind[place]? := by
  rw [List.getElem?_append_right (Nat.le_add_right _ _), Nat.add_sub_cancel_left]

variable {α : Type} {block : Nat → List α} {size : Nat}

/-- Blocks of one size make as many lines as there are blocks of that size. -/
theorem length_flatMap_range (hsize : ∀ item, (block item).length = size) (count : Nat) :
    ((List.range count).flatMap block).length = size * count := by
  induction count with
  | zero => rfl
  | succ count ih =>
    rw [List.range_succ, List.flatMap_append, List.length_append, ih, List.flatMap_singleton, hsize,
      Nat.mul_succ]

/-- A block begins behind the blocks in front of it. -/
theorem getElem?_flatMap_range (hsize : ∀ item, (block item).length = size) (hpos : 0 < size)
    {count item : Nat} (hitem : item < count) (behind : List α) :
    ((List.range count).flatMap block ++ behind)[size * item]? = (block item).head? := by
  induction count generalizing behind with
  | zero => exact absurd hitem (Nat.not_lt_zero item)
  | succ count ih =>
    rw [List.range_succ, List.flatMap_append, List.flatMap_singleton, List.append_assoc]
    rcases Nat.lt_succ_iff_lt_or_eq.mp hitem with hbefore | rfl
    · exact ih hbefore _
    · have hfirst := getElem?_append_length_add ((List.range item).flatMap block)
        (block item ++ behind) 0
      rw [length_flatMap_range hsize, Nat.add_zero] at hfirst
      rw [hfirst, List.getElem?_append_left (by rwa [hsize]), List.head?_eq_getElem?]

/-- Blocks that are related one by one. -/
theorem forall₂_flatMap_range {β : Type} {related : α → β → Prop} {other : Nat → List β}
    (hrelated : ∀ item, List.Forall₂ related (block item) (other item)) (count : Nat) :
    List.Forall₂ related ((List.range count).flatMap block) ((List.range count).flatMap other) := by
  have hitems : List.Forall₂ Eq (List.range count) (List.range count) :=
    List.forall₂_same.mpr fun _ _ => rfl
  refine List.rel_flatMap hitems ?_
  rintro item _ rfl
  exact hrelated item

end Blocks

namespace Signature

variable {headers : List (Option WrittenHeader)}

/-- The functions of headers come before those of the headers behind them. -/
theorem writtenFrom_append (number : Nat) (headers behind : List (Option WrittenHeader)) :
    writtenFrom number (headers ++ behind) =
      writtenFrom number headers ++ writtenFrom (number + headers.length) behind := by
  induction headers generalizing number with
  | nil => rfl
  | cons header? headers ih =>
    rw [List.cons_append, writtenFrom, writtenFrom, ih, List.append_assoc, List.length_cons,
      Nat.add_assoc, Nat.add_comm 1]

/-- Without headers there are no functions. -/
theorem writtenFrom_of_none (number : Nat) (hnone : ∀ header? ∈ headers, header? = none) :
    writtenFrom number headers = [] := by
  induction headers generalizing number with
  | nil => rfl
  | cons header? headers ih =>
    rw [writtenFrom, hnone header? List.mem_cons_self,
      ih (number + 1) fun other hmem => hnone other (List.mem_cons_of_mem header? hmem)]
    rfl

/-- A header with a number of lines behind it that have none. -/
def spaced (gap : Nat) (header : WrittenHeader) : List (Option WrittenHeader) :=
  some header :: List.replicate gap none

/-- A header and the lines without one behind it. -/
theorem length_spaced (gap : Nat) (header : WrittenHeader) :
    (spaced gap header).length = gap + 1 := by
  simp [spaced]

/-- The functions of headers at equal distances. -/
theorem writtenFrom_spaced (number gap count : Nat) (header : Nat → WrittenHeader) :
    writtenFrom number ((List.range count).flatMap fun item => spaced gap (header item)) =
      (List.range count).map fun item => (header item).signature (number + (gap + 1) * item) := by
  induction count with
  | zero => rfl
  | succ count ih =>
    have hlength := length_flatMap_range (fun item => length_spaced gap (header item)) count
    have hgap : ∀ number, writtenFrom number (List.replicate gap none) = [] := fun number =>
      writtenFrom_of_none number fun header? hmem => List.eq_of_mem_replicate hmem
    rw [List.range_succ, List.flatMap_append, List.map_append, writtenFrom_append, ih, hlength,
      List.flatMap_singleton, spaced, writtenFrom, hgap]
    rfl

end Signature

namespace SampleProject

variable {project : SampleProject} {signs line : Text}

/-! ## The signs of a line -/

/-- Every character of a line is a digit or one of some signs. -/
def IsMadeOf (signs line : Text) : Prop := ∀ c ∈ line, c.isDigit = true ∨ c ∈ signs

instance (signs line : Text) : Decidable (IsMadeOf signs line) :=
  inferInstanceAs (Decidable (∀ c ∈ line, c.isDigit = true ∨ c ∈ signs))

/-- The digits of a number are made of digits alone, whatever signs are allowed. -/
theorem isMadeOf_digits (signs : Text) (n : Nat) : IsMadeOf signs (digits n) :=
  fun c hc => Or.inl (Text.isDecimal_repr n c hc)

/-- Texts that are made of the same signs are so together. -/
theorem IsMadeOf.append {front behind : Text} (hfront : IsMadeOf signs front)
    (hbehind : IsMadeOf signs behind) : IsMadeOf signs (front ++ behind) :=
  List.forall_mem_append.mpr ⟨hfront, hbehind⟩

/-- A numbered name is made of the signs of its stem, bars and digits. -/
theorem isMadeOf_numbered {stem : String} (hstem : IsMadeOf signs stem.toList)
    (hbar : '_' ∈ signs) (index item : Nat) : IsMadeOf signs (numbered stem index item) := by
  have hitem : IsMadeOf signs ('_' :: digits item) :=
    List.forall_mem_cons.mpr ⟨Or.inr hbar, isMadeOf_digits signs item⟩
  exact (hstem.append (isMadeOf_digits signs index)).append hitem

/-- A word with another sign does not stand in the line. -/
theorem IsMadeOf.not_isInfix (hmade : IsMadeOf signs line) {word : Text}
    (hword : ¬ IsMadeOf signs word) : ¬ word <:+: line :=
  fun hinside => hword fun c hc => hmade c (hinside.subset hc)

/-- The signs of the line that requires a module. -/
def requireSigns : Text := "local next_mod = require(\"mod_\")".toList

/-- The signs of all other lines. -/
def bodySigns : Text := " acdefhilmnorstuvxyM_()*+,.:=\x7b\x7d".toList

/-- The lines of a module but those that require another. -/
def bodyLines (project : SampleProject) (index : Nat) : List Text :=
  ["local M = \x7b\x7d".toList, []] ++
    ((List.range project.functions).flatMap (functionLines index) ++
      ((List.range project.methods).flatMap (methodLines index) ++
        ((List.range project.assignments).map (assignmentLine index) ++ [[], "return M".toList])))

/-- A module begins with the lines that require the next one. -/
theorem lines_eq (project : SampleProject) (index : Nat) :
    project.lines index = project.requireLines index ++ project.bodyLines index := by
  simp only [lines, bodyLines, List.append_assoc]

/-- The line that requires a module. -/
theorem isMadeOf_of_mem_requireLines {index : Nat} (hline : line ∈ project.requireLines index) :
    IsMadeOf requireSigns line := by
  unfold requireLines at hline
  split at hline
  case isFalse => cases hline
  case isTrue =>
    rw [List.mem_pair] at hline
    rcases hline with rfl | rfl
    · have hname : IsMadeOf requireSigns (moduleName (index + 1)) :=
        .append (by decide) (isMadeOf_digits requireSigns (index + 1))
      exact .append (.append (by decide) hname) (by decide)
    · exact List.forall_mem_nil _

/-- The other lines. -/
theorem isMadeOf_of_mem_bodyLines {index : Nat} (hline : line ∈ project.bodyLines index) :
    IsMadeOf bodySigns line := by
  have hnumbered {stem : String} (hstem : IsMadeOf bodySigns stem.toList) (item : Nat) :
      IsMadeOf bodySigns (numbered stem index item) :=
    isMadeOf_numbered hstem (by decide) index item
  have hdigits := isMadeOf_digits bodySigns
  simp only [bodyLines, List.mem_append, List.mem_flatMap, List.mem_map] at hline
  rcases hline with hline | ⟨item, -, hline⟩ | ⟨item, -, hline⟩ | ⟨item, -, rfl⟩ | hline
  · have hfirst : ∀ line ∈ ["local M = \x7b\x7d".toList, []], IsMadeOf bodySigns line := by decide
    exact hfirst line hline
  · simp only [functionLines, List.mem_cons, List.not_mem_nil, or_false] at hline
    rcases hline with rfl | rfl | hline
    · exact .append (.append (by decide) (hnumbered (by decide) item)) (by decide)
    · exact .append (by decide) (hdigits (item + 1))
    · rcases hline with rfl | rfl | rfl | rfl | rfl | rfl <;> decide
  · simp only [methodLines, List.mem_cons, List.not_mem_nil, or_false] at hline
    rcases hline with rfl | rfl | hline
    · exact .append (.append (by decide) (hnumbered (by decide) item)) (by decide)
    · exact .append (.append (by decide) (hdigits item)) (by decide)
    · rcases hline with rfl | rfl <;> decide
  · exact .append (.append (hnumbered (by decide) item) (by decide)) (hdigits (item + 1))
  · have hlast : ∀ line ∈ [[], "return M".toList], IsMadeOf bodySigns line := by decide
    exact hlast line hline

/-- Every line is one that requires a module or one of the others. -/
theorem isMadeOf_of_mem_lines {index : Nat} (hline : line ∈ project.lines index) :
    IsMadeOf requireSigns line ∨ IsMadeOf bodySigns line := by
  rw [lines_eq, List.mem_append] at hline
  exact hline.imp isMadeOf_of_mem_requireLines isMadeOf_of_mem_bodyLines

/-- The lines of a module are read from its text. -/
theorem lines_moduleText (project : SampleProject) (index : Nat) :
    Text.lines (project.moduleText index) = project.lines index := by
  have hsigns : ∀ c ∈ ['\n', '\r'], ¬(c.isDigit = true ∨ c ∈ requireSigns ++ bodySigns) := by decide
  have hplain : ∀ c ∈ ['\n', '\r'], ∀ line ∈ project.lines index, c ∉ line := by
    intro c hc line hline hmem
    refine hsigns c hc ?_
    rw [List.mem_append]
    rcases isMadeOf_of_mem_lines hline with hmade | hmade
    · exact (hmade c hmem).imp_right Or.inl
    · exact (hmade c hmem).imp_right Or.inr
  exact Text.lines_flatMap (hplain '\n' (by decide)) fun line hline hlast =>
    hplain '\r' (by decide) line hline (List.mem_of_getLast? hlast)

/-! ## Functions -/

/-- Digits may stand in names. -/
theorem isNamePart_of_mem_digits {n : Nat} {c : Char} (hc : c ∈ digits n) :
    Lexer.isNamePart c = true := by
  simp [Lexer.isNamePart, Char.isAlphanum, Text.isDecimal_repr n c hc]

/-- A numbered name is an identifier if its stem is. -/
theorem isIdentifier_numbered {stem : String} (hstem : Text.IsIdentifier stem.toList)
    (index item : Nat) : Text.IsIdentifier (numbered stem index item) where
  starts := by
    obtain ⟨c, rest, hrest⟩ := List.exists_cons_of_ne_nil hstem.ne_nil
    have hstarts := hstem.starts
    rw [hrest] at hstarts
    rw [numbered, hrest]
    exact hstarts
  parts := by
    intro c hc
    rw [numbered, List.mem_append, List.mem_append, List.mem_cons] at hc
    rcases hc with (hstem' | hindex) | rfl | hitem
    · exact hstem.parts c hstem'
    · exact isNamePart_of_mem_digits hindex
    · rfl
    · exact isNamePart_of_mem_digits hitem

/-- The name of a function. -/
def functionName (index item : Nat) : Text := numbered "func_" index item

/-- The name of a method. -/
def methodName (index item : Nat) : Text := numbered "method_" index item

/-! The facts about the headers stand on their own, so that the headers are only data. -/

/-- The functions have names that a header can carry. -/
theorem isIdentifier_functionName (index item : Nat) : (functionName index item).IsIdentifier :=
  isIdentifier_numbered (by decide) index item

/-- The methods have such names too. -/
theorem isIdentifier_methodName (index item : Nat) : (methodName index item).IsIdentifier :=
  isIdentifier_numbered (by decide) index item

/-- The table of the methods has such a name. -/
theorem isIdentifier_table : Text.IsIdentifier ['M'] := by decide

/-- A method is written behind a colon. -/
theorem isSeparator_colon : ':' = '.' ∨ ':' = ':' := Or.inr rfl

/-- One space separates the words of a header. -/
theorem isBlanks_space : Text.IsBlanks [' '] := by decide

/-- A space is something that separates. -/
theorem space_ne_nil : [' '] ≠ [] := List.cons_ne_nil _ _

/-- A local function has one space behind `local`. -/
theorem isGap_space : ∀ gap ∈ some [' '], gap ≠ [] ∧ Text.IsBlanks gap := by decide

/-- A method is not local. -/
theorem isGap_none : ∀ gap ∈ (none : Option Text), gap ≠ [] ∧ Text.IsBlanks gap := by decide

/-- The two parameters of a function have no sign that ends an entry. -/
theorem entries_plain_pair :
    ∀ entry ∈ ["x".toList, " y".toList], ∀ c ∈ entry, c ∉ ['(', ')', ','] := by decide

/-- The one parameter of a method has no such sign either. -/
theorem entries_plain_value :
    ∀ entry ∈ ["value".toList], ∀ c ∈ entry, c ∉ ['(', ')', ','] := by decide

/-- The table of a module with the colon behind it. -/
def tableSegment : Signature.Segment where
  name := ['M']
  before := []
  sign := ':'
  after := []
  isIdentifier := isIdentifier_table
  isBlanks_before := Text.isBlanks_nil
  isBlanks_after := Text.isBlanks_nil
  isSeparator := isSeparator_colon

/-- A function has no owner, so no separator stands inside of one. -/
theorem sign_inner_nil :
    ∀ segment ∈ ([] : List Signature.Segment).dropLast, segment.sign = '.' := List.forall_mem_nil _

/-- The owner of a method is a single name, so none does there either. -/
theorem sign_inner_table : ∀ segment ∈ [tableSegment].dropLast, segment.sign = '.' :=
  List.forall_mem_nil _

/-- The header of a function. -/
def functionHeader (index item : Nat) : Signature.WrittenHeader where
  indentation := []
  localGap := some [' ']
  nameGap := [' ']
  owners := []
  name := functionName index item
  listGap := []
  entries := ["x".toList, " y".toList]
  isBlanks_indentation := Text.isBlanks_nil
  isBlanks_localGap := isGap_space
  isBlanks_nameGap := isBlanks_space
  nameGap_ne_nil := space_ne_nil
  sign_inner := sign_inner_nil
  isIdentifier_name := isIdentifier_functionName index item
  isBlanks_listGap := Text.isBlanks_nil
  entries_plain := entries_plain_pair

/-- The line of a function is its header. -/
theorem text_functionHeader (index item : Nat) : (functionHeader index item).text =
    "local function ".toList ++ functionName index item ++ "(x, y)".toList := by
  simp [Signature.WrittenHeader.text, Signature.WrittenHeader.front,
    Signature.WrittenHeader.chain, Signature.WrittenHeader.list, functionHeader, Text.join]

/-- The header of a method. -/
def methodHeader (index item : Nat) : Signature.WrittenHeader where
  indentation := []
  localGap := none
  nameGap := [' ']
  owners := [tableSegment]
  name := methodName index item
  listGap := []
  entries := ["value".toList]
  isBlanks_indentation := Text.isBlanks_nil
  isBlanks_localGap := isGap_none
  isBlanks_nameGap := isBlanks_space
  nameGap_ne_nil := space_ne_nil
  sign_inner := sign_inner_table
  isIdentifier_name := isIdentifier_methodName index item
  isBlanks_listGap := Text.isBlanks_nil
  entries_plain := entries_plain_value

/-- The line of a method is its header. -/
theorem text_methodHeader (index item : Nat) : (methodHeader index item).text =
    "function M:".toList ++ methodName index item ++ "(value)".toList := by
  simp [Signature.WrittenHeader.text, Signature.WrittenHeader.front,
    Signature.WrittenHeader.chain, Signature.WrittenHeader.list, Signature.Segment.text,
    methodHeader, tableSegment, Text.join]

/-- The headers on the lines of a module. -/
def headers (project : SampleProject) (index : Nat) : List (Option Signature.WrittenHeader) :=
  (project.requireLines index).map (fun _ => none) ++ ([none, none] ++
    ((List.range project.functions).flatMap
        (fun item => Signature.spaced 7 (functionHeader index item)) ++
      ((List.range project.methods).flatMap
          (fun item => Signature.spaced 3 (methodHeader index item)) ++
        ((List.range project.assignments).map (fun _ => none) ++ [none, none]))))

/-- Lines without the word have no headers. -/
theorem begins_of_wordless {lines : List Text}
    (hword : ∀ line ∈ lines, ¬ "function".toList <:+: line) :
    List.Forall₂ Signature.Begins lines (lines.map fun _ => none) := by
  rw [List.forall₂_map_right_iff, List.forall₂_same]
  exact fun line hline => .wordless (hword line hline)

/-- In the lines of a function the word stands in the header alone. -/
theorem begins_functionLines (index item : Nat) :
    List.Forall₂ Signature.Begins (functionLines index item)
      (Signature.spaced 7 (functionHeader index item)) := by
  have hheader := Signature.Begins.header (functionHeader index item) []
  rw [List.append_nil, text_functionHeader] at hheader
  have hsum : IsMadeOf "    local result = x + y * ".toList
      ("    local result = x + y * ".toList ++ digits (item + 1)) :=
    .append (by decide) (isMadeOf_digits _ _)
  refine .cons hheader (.cons (.wordless (hsum.not_isInfix (by decide))) ?_)
  exact begins_of_wordless (by decide)

/-- In the lines of a method the word stands in the header alone. -/
theorem begins_methodLines (index item : Nat) :
    List.Forall₂ Signature.Begins (methodLines index item)
      (Signature.spaced 3 (methodHeader index item)) := by
  have hheader := Signature.Begins.header (methodHeader index item) []
  rw [List.append_nil, text_methodHeader] at hheader
  have hvalue : IsMadeOf "    self.value_ = value".toList
      ("    self.value_".toList ++ digits item ++ " = value".toList) :=
    .append (.append (by decide) (isMadeOf_digits _ _)) (by decide)
  refine .cons hheader (.cons (.wordless (hvalue.not_isInfix (by decide))) ?_)
  exact begins_of_wordless (by decide)

/-- The headers of a module stand in front of its lines. -/
theorem begins_lines (project : SampleProject) (index : Nat) :
    List.Forall₂ Signature.Begins (project.lines index) (project.headers index) := by
  have hrequire := begins_of_wordless fun line (hline : line ∈ project.requireLines index) =>
    (isMadeOf_of_mem_requireLines hline).not_isInfix (by decide)
  have hfunctions := forall₂_flatMap_range (begins_functionLines index) project.functions
  have hmethods := forall₂_flatMap_range (begins_methodLines index) project.methods
  have hassignments := begins_of_wordless
    fun line (hline : line ∈ (List.range project.assignments).map (assignmentLine index)) => by
      obtain ⟨item, -, rfl⟩ := List.mem_map.mp hline
      have hmade : IsMadeOf "M.var_ = ".toList (assignmentLine index item) :=
        .append (.append (isMadeOf_numbered (by decide) (by decide) index item) (by decide))
          (isMadeOf_digits _ _)
      exact hmade.not_isInfix (by decide)
  have hfirst : List.Forall₂ Signature.Begins ["local M = \x7b\x7d".toList, []] [none, none] :=
    begins_of_wordless (by decide)
  have hlast : List.Forall₂ Signature.Begins [[], "return M".toList] [none, none] :=
    begins_of_wordless (by decide)
  rw [List.map_map] at hassignments
  rw [lines_eq]
  exact List.rel_append hrequire (List.rel_append hfirst (List.rel_append hfunctions
    (List.rel_append hmethods (List.rel_append hassignments hlast))))

/-- The line of a function, counted from zero. -/
def functionLine (project : SampleProject) (index item : Nat) : Nat :=
  (project.requireLines index).length + (2 + 8 * item)

/-- The line of a method, counted from zero. -/
def methodLine (project : SampleProject) (index item : Nat) : Nat :=
  (project.requireLines index).length + (2 + (8 * project.functions + 4 * item))

/-- A function of a module. -/
def functionSignature (project : SampleProject) (index item : Nat) : Signature where
  display := functionName index item ++ "(x, y)".toList
  name := functionName index item
  owner := none
  relation := .free
  rawParameters := "(x, y)".toList
  parameters := [['x'], ['y']]
  origin := none
  line := project.functionLine index item + 1

/-- A method of a module. -/
def methodSignature (project : SampleProject) (index item : Nat) : Signature where
  display := "M:".toList ++ methodName index item ++ "(value)".toList
  name := methodName index item
  owner := some ['M']
  relation := .method
  rawParameters := "(value)".toList
  parameters := ["value".toList]
  origin := none
  line := project.methodLine index item + 1

/-- The functions and then the methods of a module. -/
def signatures (project : SampleProject) (index : Nat) : List Signature :=
  (List.range project.functions).map (project.functionSignature index) ++
    (List.range project.methods).map (project.methodSignature index)

/-- The header of a function is read as the signature that the project lists for it. -/
theorem signature_functionHeader (project : SampleProject) (index item : Nat) :
    (functionHeader index item).signature (project.functionLine index item + 1) =
      project.functionSignature index item := by
  have hdisplay : (functionHeader index item).chain ++ [] ++ (functionHeader index item).list =
      functionName index item ++ "(x, y)".toList :=
    congrArg (· ++ "(x, y)".toList) (List.append_nil _)
  rw [functionSignature, ← hdisplay]
  rfl

/-- The header of a method is read as the signature that the project lists for it. -/
theorem signature_methodHeader (project : SampleProject) (index item : Nat) :
    (methodHeader index item).signature (project.methodLine index item + 1) =
      project.methodSignature index item := by
  have hdisplay : (methodHeader index item).chain ++ [] ++ (methodHeader index item).list =
      "M:".toList ++ methodName index item ++ "(value)".toList :=
    congrArg (· ++ "(value)".toList) (List.append_nil _)
  rw [methodSignature, ← hdisplay]
  rfl

/-- The text of a module defines its functions and then its methods. -/
theorem ofText_moduleText (project : SampleProject) (index : Nat) :
    Signature.ofText (project.moduleText index) = project.signatures index := by
  have hbegins := begins_lines project index
  rw [← lines_moduleText] at hbegins
  have hnone : ∀ {α : Type} (lines : List α) (number : Nat),
      Signature.writtenFrom number (lines.map fun _ => none) = [] := by
    intro α lines number
    refine Signature.writtenFrom_of_none number fun header? hmem => ?_
    obtain ⟨_, -, rfl⟩ := List.mem_map.mp hmem
    rfl
  have hends : ∀ number, Signature.writtenFrom number [none, none] = [] := fun _ => rfl
  have hlength := length_flatMap_range
    (fun item => Signature.length_spaced 7 (functionHeader index item)) project.functions
  have hfunctions : ∀ item, 1 + (project.requireLines index).length + 2 + (7 + 1) * item =
      project.functionLine index item + 1 := by
    intro item
    rw [functionLine]
    omega
  -- The methods begin where one more function would.
  have hmethods : ∀ item, project.functionLine index project.functions + 1 + (3 + 1) * item =
      project.methodLine index item + 1 := by
    intro item
    rw [functionLine, methodLine]
    omega
  rw [(Signature.ofText_written hbegins).1, headers]
  simp only [Signature.writtenFrom_append, hnone, hends, Signature.writtenFrom_spaced,
    List.length_map, List.length_cons, List.length_nil, hlength, hfunctions, hmethods,
    signature_functionHeader, signature_methodHeader, List.nil_append, List.append_nil]
  rfl

/-- A function takes eight lines. -/
theorem length_functionLines (index item : Nat) : (functionLines index item).length = 8 := rfl

/-- A method takes four lines. -/
theorem length_methodLines (index item : Nat) : (methodLines index item).length = 4 := rfl

/-- A function or a method stands on its line, behind the words that begin its header. -/
theorem getElem?_lines_of_mem_signatures {index : Nat} {signature : Signature}
    (hsignature : signature ∈ project.signatures index) :
    ∃ line, signature.line = line + 1 ∧ (project.lines index)[line]? =
      some ((if signature.owner.isSome then "function ".toList else "local function ".toList) ++
        signature.display) := by
  have hbody : ∀ place, (project.lines index)[(project.requireLines index).length + (2 + place)]? =
      ((List.range project.functions).flatMap (functionLines index) ++
        ((List.range project.methods).flatMap (methodLines index) ++
          ((List.range project.assignments).map (assignmentLine index) ++
            [[], "return M".toList])))[place]? := by
    intro place
    rw [lines_eq, getElem?_append_length_add]
    exact getElem?_append_length_add ["local M = \x7b\x7d".toList, []] _ place
  rw [signatures, List.mem_append] at hsignature
  rcases hsignature with hmem | hmem
  · obtain ⟨item, hitem, rfl⟩ := List.mem_map.mp hmem
    refine ⟨project.functionLine index item, rfl, ?_⟩
    rw [functionLine, hbody, getElem?_flatMap_range (length_functionLines index) (by decide)
      (List.mem_range.mp hitem)]
    rfl
  · obtain ⟨item, hitem, rfl⟩ := List.mem_map.mp hmem
    refine ⟨project.methodLine index item, rfl, ?_⟩
    rw [methodLine, hbody, ← length_flatMap_range (length_functionLines index),
      getElem?_append_length_add, getElem?_flatMap_range (length_methodLines index) (by decide)
      (List.mem_range.mp hitem)]
    rfl

/-! ## References -/

/-- The name of a module is made of these signs and digits. -/
theorem isMadeOf_moduleName (index : Nat) : IsMadeOf "mod_".toList (moduleName index) :=
  .append (by decide) (isMadeOf_digits _ index)

/-- A sign that is none of these and no digit. -/
theorem IsMadeOf.not_mem (hmade : IsMadeOf signs line) {c : Char}
    (hc : c.isDigit = false ∧ c ∉ signs) : c ∉ line := by
  intro hmem
  rcases hmade c hmem with hdigit | hsign
  · rw [hc.1] at hdigit
    cases hdigit
  · exact hc.2 hsign

/-- A module has a name. -/
theorem moduleName_ne_nil (index : Nat) : moduleName index ≠ [] := List.cons_ne_nil _ _

/-- The name of a module closes no literal. -/
theorem quote_not_mem_moduleName (index : Nat) : '"' ∉ moduleName index :=
  (isMadeOf_moduleName index).not_mem (by decide)

/-- The name of a module escapes nothing. -/
theorem backslash_not_mem_moduleName (index : Nat) : '\\' ∉ moduleName index :=
  (isMadeOf_moduleName index).not_mem (by decide)

/-- Nothing is required in front of the call. -/
theorem isPlain_assignment : Require.IsPlain "local next_mod = ".toList := by decide

/-- The call begins a word of its own. -/
theorem assignment_ends :
    ∀ c ∈ "local next_mod = ".toList.getLast?, Text.isWordPart c = false := by decide

/-- A parenthesis may stand between the word and the literal. -/
theorem isGap_paren : Require.IsGap ['('] := ⟨[], [], by decide, Or.inr rfl⟩

/-- The name stands in double quotes. -/
theorem isQuote_double : Require.isQuote '"' = true := rfl

/-- The reference to a module as it is written. -/
def moduleCall (index : Nat) : Require.WrittenCall where
  front := "local next_mod = ".toList
  between := ['(']
  quote := '"'
  name := moduleName index
  isPlain_front := isPlain_assignment
  front_ends := assignment_ends
  isGap_between := isGap_paren
  isQuote_quote := isQuote_double
  name_ne_nil := moduleName_ne_nil index
  quote_not_mem := quote_not_mem_moduleName index
  backslash_not_mem := backslash_not_mem_moduleName index

/-- What is written on the line up to the name. -/
theorem opening_moduleCall (index : Nat) :
    (moduleCall index).opening = "local next_mod = require(\"".toList := rfl

/-- On the line that requires a module its name is found. -/
theorem ofLine_moduleCall (index : Nat) :
    Require.ofLine 0 ("local next_mod = require(\"".toList ++ moduleName index ++ "\")".toList) =
      [⟨moduleName index, 0, 26⟩] := by
  have hwritten : Require.written [moduleCall index] [')'] =
      "local next_mod = require(\"".toList ++ moduleName index ++ "\")".toList := by
    rw [Require.written, List.flatMap_singleton, Require.WrittenCall.text, opening_moduleCall,
      List.append_assoc, List.append_assoc, List.append_assoc]
    rfl
  have hcolumn : Text.utf8Length "local next_mod = require(\"".toList = 26 := by decide
  rw [← hwritten, Require.ofLine_written 0 [moduleCall index] (by decide), Require.writtenFrom,
    opening_moduleCall, hcolumn]
  rfl

/-- Lines without the word have no references. -/
theorem referencesFrom_of_wordless {lines : List Text} (number : Nat)
    (hword : ∀ line ∈ lines, ¬ Require.word <:+: line) :
    Require.referencesFrom number lines = [] := by
  induction lines generalizing number with
  | nil => rfl
  | cons line lines ih =>
    have hline : ¬ Require.word <:+: Signature.codeOf line := fun hcode =>
      hword line List.mem_cons_self (hcode.trans (LineScan.codeOf_isInfix line))
    rw [Require.referencesFrom, Require.ofLine_of_wordless number hline,
      ih (number + 1) fun other hmem => hword other (List.mem_cons_of_mem line hmem)]
    rfl

/-- A module requires the next one if the chain goes on there and there is one. -/
def Requires (project : SampleProject) (index : Nat) : Prop :=
  index < project.chain ∧ index + 1 < project.modules

instance (project : SampleProject) (index : Nat) : Decidable (project.Requires index) :=
  inferInstanceAs (Decidable (_ ∧ _))

/-- What a module requires: the next module or none. -/
theorem declarations_moduleText (placeholder : Char) (project : SampleProject) (index : Nat) :
    Require.declarations placeholder (project.moduleText index) =
      ⟨if project.Requires index then [⟨moduleName (index + 1), 0, 26⟩] else [], []⟩ := by
  have hwordless : ∀ line ∈ [] :: project.bodyLines index, ¬ Require.word <:+: line :=
    List.forall_mem_cons.mpr ⟨by decide, fun line hline =>
      (isMadeOf_of_mem_bodyLines hline).not_isInfix (by decide)⟩
  have hreferences : Require.referencesFrom 0 (project.lines index) =
      if project.Requires index then [⟨moduleName (index + 1), 0, 26⟩] else [] := by
    rw [lines_eq, requireLines]
    by_cases hrequires : project.Requires index
    · rw [if_pos hrequires, if_pos (by simpa [Requires] using hrequires), List.cons_append,
        List.singleton_append, Require.referencesFrom, ofLine_moduleCall,
        referencesFrom_of_wordless 1 hwordless, List.append_nil]
    · rw [if_neg hrequires, if_neg (by simpa [Requires] using hrequires), List.nil_append,
        referencesFrom_of_wordless 0 fun line hline =>
          hwordless line (List.mem_cons_of_mem _ hline)]
  have hassigned : (project.lines index).flatMap
      (fun line => Require.entries (Require.pathAssignment line)) = [] := by
    refine List.flatMap_eq_nil_iff.mpr fun line hline => ?_
    have hword : ¬ "package".toList <:+: line := by
      rcases isMadeOf_of_mem_lines hline with hmade | hmade
      · exact hmade.not_isInfix (by decide)
      · exact hmade.not_isInfix (by decide)
    rw [Require.pathAssignment_of_wordless fun hcode =>
      hword (hcode.trans (LineScan.codeOf_isInfix line)), Require.entries, Require.literals]
    rfl
  rw [Require.declarations, lines_moduleText, hreferences, hassigned]
  rfl

end SampleProject

end LuaAssist

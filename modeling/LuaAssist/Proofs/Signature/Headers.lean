import LuaAssist.Proofs.Comment.Ignored
import LuaAssist.Proofs.Text.Names
import LuaAssist.Proofs.Text.Trim
import LuaAssist.Proofs.Token.Bytes
import Mathlib.Data.List.ReduceOption

/-!
# Function headers as they are written

A header is written as the word `function`, a name of one or several segments and a list of
parameters in parentheses, with blanks between these parts. Whatever follows on its line, a text
defines just the functions whose headers are written in front of its lines.
-/

namespace LuaAssist

/-! ## Texts between signs -/

namespace Text

/-- A text of blanks. -/
def IsBlanks (text : Text) : Prop := ∀ c ∈ text, isBlank c = true

instance (text : Text) : Decidable text.IsBlanks :=
  inferInstanceAs (Decidable (∀ c ∈ text, isBlank c = true))

/-- The empty text is blank. -/
theorem isBlanks_nil : IsBlanks [] := List.forall_mem_nil _

/-- No other character is among blanks. -/
theorem IsBlanks.not_mem {text : Text} (htext : text.IsBlanks) {c : Char}
    (hblank : isBlank c = false) : c ∉ text := by
  intro hmem
  rw [htext c hmem] at hblank
  cases hblank

/-- A name of ASCII letters, digits and underscores that does not begin with a digit. -/
structure IsIdentifier (name : Text) : Prop where
  starts : name.head?.any Lexer.isNameStart = true
  parts : ∀ c ∈ name, Lexer.isNamePart c = true

instance (name : Text) : Decidable name.IsIdentifier :=
  decidable_of_iff (name.head?.any Lexer.isNameStart = true ∧ ∀ c ∈ name, Lexer.isNamePart c = true)
    ⟨fun ⟨hstarts, hparts⟩ => ⟨hstarts, hparts⟩, fun ⟨hstarts, hparts⟩ => ⟨hstarts, hparts⟩⟩

section Identifier

variable {name : Text} (hname : name.IsIdentifier)
include hname

/-- An identifier has characters. -/
theorem IsIdentifier.ne_nil : name ≠ [] := by
  rintro rfl
  exact absurd hname.starts (by decide)

/-- No character of it is blank. -/
theorem IsIdentifier.isBlank_of_mem {c : Char} (hmem : c ∈ name) : isBlank c = false :=
  isBlank_of_isIdentifierPart (Lexer.isIdentifierPart_of_isNamePart (hname.parts c hmem))

/-- Of a name with blanks around it the name is left. -/
theorem IsIdentifier.trim_append {front behind : Text} (hfront : front.IsBlanks)
    (hbehind : behind.IsBlanks) : trim (front ++ (name ++ behind)) = name :=
  Text.trim_append hfront hbehind
    (fun _ hc => hname.isBlank_of_mem (List.mem_of_mem_head? hc))
    (fun _ hc => hname.isBlank_of_mem (List.mem_of_getLast? hc))

/-- A name has no blanks that could be left out. -/
theorem IsIdentifier.filter_isBlank : name.filter (fun c => !isBlank c) = name :=
  List.filter_eq_self.mpr fun c hc => by simp [hname.isBlank_of_mem hc]

end Identifier

end Text

namespace Signature

open Text (IsBlanks IsIdentifier)

/-! ## Headers -/

/-- A segment of an owner with the sign behind it, and the blanks around that sign. -/
structure Segment where
  name : Text
  before : Text
  sign : Char
  after : Text
  isIdentifier : name.IsIdentifier
  isBlanks_before : before.IsBlanks
  isBlanks_after : after.IsBlanks
  isSeparator : sign = '.' ∨ sign = ':'

/-- A segment as it is written. -/
def Segment.text (segment : Segment) : Text :=
  segment.name ++ segment.before ++ segment.sign :: segment.after

/-- A function header as it is written. -/
structure WrittenHeader where
  /-- The blanks in front of the header. -/
  indentation : Text
  /-- The blanks behind the word `local`, if this stands in front of the word `function`. -/
  localGap : Option Text
  /-- The blanks behind the word `function`. -/
  nameGap : Text
  owners : List Segment
  /-- The last segment of the name. -/
  name : Text
  /-- The blanks in front of the parameters. -/
  listGap : Text
  /-- What stands in the list of parameters between commas. -/
  entries : List Text
  isBlanks_indentation : indentation.IsBlanks
  isBlanks_localGap : ∀ gap ∈ localGap, gap ≠ [] ∧ gap.IsBlanks
  isBlanks_nameGap : nameGap.IsBlanks
  nameGap_ne_nil : nameGap ≠ []
  /-- Only the last sign may be a colon. -/
  sign_inner : ∀ segment ∈ owners.dropLast, segment.sign = '.'
  isIdentifier_name : name.IsIdentifier
  isBlanks_listGap : listGap.IsBlanks
  entries_plain : ∀ entry ∈ entries, ∀ c ∈ entry, c ∉ ['(', ')', ',']

namespace WrittenHeader

/-- What stands in front of the word `function`. -/
def front (header : WrittenHeader) : Text :=
  header.indentation ++ header.localGap.elim [] ("local".toList ++ ·)

/-- The name with all its segments. -/
def chain (header : WrittenHeader) : Text := header.owners.flatMap Segment.text ++ header.name

/-- The parameters with their parentheses. -/
def list (header : WrittenHeader) : Text := '(' :: (Text.join [','] header.entries ++ [')'])

/-- The header from its first blank to its closing parenthesis. -/
def text (header : WrittenHeader) : Text :=
  header.front ++ "function".toList ++
    (header.nameGap ++ (header.chain ++ header.listGap ++ header.list))

/-- A function without owner is free, and a colon in front of the last segment makes a method. -/
def relation (header : WrittenHeader) : Relation :=
  match header.owners.getLast? with
  | none => .free
  | some segment => if segment.sign = ':' then .method else .member

/-- The function that is defined by a header on some line. -/
def signature (header : WrittenHeader) (number : Nat) : Signature where
  display := header.chain ++ header.listGap ++ header.list
  name := header.name
  owner := if header.owners.isEmpty then none
    else some (Text.join ['.'] (header.owners.map Segment.name))
  relation := header.relation
  rawParameters := header.list
  parameters := (header.entries.map Text.trim).filter fun parameter => !parameter.isEmpty
  origin := none
  line := number

end WrittenHeader

/-! ## Names -/

section Names

variable {owners : List Segment} {name : Text} (hname : IsIdentifier name)
include hname

/-- Of the characters that are no parts of names and no blanks, a name has the signs behind its
segments. -/
theorem mem_chain_iff {c : Char} (hpart : Lexer.isNamePart c = false)
    (hblank : Text.isBlank c = false) :
    c ∈ owners.flatMap Segment.text ++ name ↔ ∃ segment ∈ owners, segment.sign = c := by
  have hother : ∀ {name : Text}, IsIdentifier name → c ∉ name := fun hname hmem => by
    rw [hname.parts c hmem] at hpart
    cases hpart
  have hsegment : ∀ segment : Segment, c ∈ segment.text ↔ segment.sign = c := fun segment => by
    simp [Segment.text, hother segment.isIdentifier, segment.isBlanks_before.not_mem hblank,
      segment.isBlanks_after.not_mem hblank, eq_comm]
  simp only [List.mem_append, hother hname, or_false, List.mem_flatMap, hsegment]

/-- The segments of a name are what stands between its signs. -/
theorem segments_chain {front : Text} (hfront : front.IsBlanks) :
    segments (front ++ (owners.flatMap Segment.text ++ name)) =
      owners.map Segment.name ++ [name] := by
  have hinner : ∀ {before name behind : Text}, before.IsBlanks → name.IsIdentifier →
      behind.IsBlanks → ∀ c ∈ before ++ (name ++ behind), (c = '.' || c = ':') = false := by
    intro before name behind hbefore hname hbehind c hmem
    have hother : Text.isBlank c = true ∨ Lexer.isNamePart c = true := by
      simp only [List.mem_append] at hmem
      rcases hmem with hmem | hmem | hmem
      · exact Or.inl (hbefore c hmem)
      · exact Or.inr (hname.parts c hmem)
      · exact Or.inl (hbehind c hmem)
    simp only [Bool.or_eq_false_iff, decide_eq_false_iff_not]
    constructor <;> rintro rfl <;> exact absurd hother (by decide)
  induction owners generalizing front with
  | nil =>
    have hpiece := Text.splitOn_of_inner (hinner hfront hname Text.isBlanks_nil)
    have htrim := hname.trim_append hfront Text.isBlanks_nil
    rw [List.append_nil] at hpiece htrim
    rw [List.flatMap_nil, List.nil_append, segments, hpiece, List.map_singleton, htrim]
    rfl
  | cons segment owners ih =>
    have hseparator : (segment.sign = '.' || segment.sign = ':') = true := by
      simpa using segment.isSeparator
    have htext : front ++ ((segment :: owners).flatMap Segment.text ++ name) =
        (front ++ (segment.name ++ segment.before)) ++
          segment.sign :: (segment.after ++ (owners.flatMap Segment.text ++ name)) := by
      simp [Segment.text]
    have hrest := ih segment.isBlanks_after
    rw [segments] at hrest ⊢
    rw [htext, Text.splitOn_append_separator hseparator,
      Text.splitOn_of_inner (hinner hfront segment.isIdentifier segment.isBlanks_before),
      List.map_append, hrest, List.map_singleton,
      segment.isIdentifier.trim_append hfront segment.isBlanks_before]
    rfl

end Names

namespace WrittenHeader

variable (header : WrittenHeader)

/-- Of the characters that are no parts of names and no blanks, a name has only dots and colons. -/
theorem not_mem_chain {c : Char} (hpart : Lexer.isNamePart c = false)
    (hblank : Text.isBlank c = false) (hsign : c ≠ '.' ∧ c ≠ ':') : c ∉ header.chain := by
  intro hmem
  obtain ⟨segment, -, rfl⟩ := (mem_chain_iff header.isIdentifier_name hpart hblank).mp hmem
  exact segment.isSeparator.elim hsign.1 hsign.2

/-- A name begins with a character that is not blank. -/
theorem head?_chain : ∃ c rest, header.chain = c :: rest ∧ Text.isBlank c = false := by
  have hfirst : ∃ name rest, IsIdentifier name ∧ header.chain = name ++ rest := by
    unfold chain
    cases header.owners with
    | nil => exact ⟨header.name, [], header.isIdentifier_name, by simp⟩
    | cons segment owners => exact ⟨segment.name, _, segment.isIdentifier, by
        rw [List.flatMap_cons, Segment.text, List.append_assoc, List.append_assoc,
          List.append_assoc]⟩
  obtain ⟨name, rest, hname, hchain⟩ := hfirst
  obtain ⟨c, tail, rfl⟩ := List.exists_cons_of_ne_nil hname.ne_nil
  exact ⟨c, tail ++ rest, hchain, hname.isBlank_of_mem List.mem_cons_self⟩

/-- A name ends with a character that is not blank. -/
theorem getLast?_chain : ∀ c ∈ header.chain.getLast?, Text.isBlank c = false := by
  intro c hc
  rw [chain, List.getLast?_append_of_ne_nil _ header.isIdentifier_name.ne_nil] at hc
  exact header.isIdentifier_name.isBlank_of_mem (List.mem_of_getLast? hc)

/-! ### Relation -/

/-- A colon can only stand in front of the last segment. -/
theorem sign_of_concat {owners : List Segment} {last : Segment}
    (howners : header.owners = owners ++ [last]) :
    (∀ segment ∈ owners, segment.sign = '.') ∧
      header.relation = if last.sign = ':' then .method else .member := by
  have hinner := header.sign_inner
  rw [howners, List.dropLast_concat] at hinner
  exact ⟨hinner, by rw [relation, howners, List.getLast?_concat]⟩

/-- The sign in front of the last segment tells what the name means. -/
theorem relationOf_chain : relationOf header.chain = header.relation := by
  have hcolon : ':' ∈ header.chain ↔ ∃ segment ∈ header.owners, segment.sign = ':' :=
    mem_chain_iff header.isIdentifier_name (by decide) (by decide)
  have hdot : '.' ∈ header.chain ↔ ∃ segment ∈ header.owners, segment.sign = '.' :=
    mem_chain_iff header.isIdentifier_name (by decide) (by decide)
  simp only [relationOf, List.contains_iff_mem, hcolon, hdot]
  rcases List.eq_nil_or_concat header.owners with hnil | ⟨owners, last, howners⟩
  · simp [relation, hnil]
  · rw [List.concat_eq_append] at howners
    obtain ⟨hinner, hrelation⟩ := header.sign_of_concat howners
    rw [hrelation, howners]
    by_cases hlast : last.sign = ':'
    · rw [if_pos ⟨last, by simp, hlast⟩, if_pos hlast]
    · have hnone : ¬ ∃ segment ∈ owners ++ [last], segment.sign = ':' := by
        rintro ⟨segment, hmem, hsign⟩
        rcases List.mem_append.mp hmem with hmem | hmem
        · exact absurd ((hinner segment hmem).symm.trans hsign) (by decide)
        · exact hlast (List.mem_singleton.mp hmem ▸ hsign)
      rw [if_neg hnone, if_neg hlast,
        if_pos ⟨last, by simp, last.isSeparator.resolve_right hlast⟩]

/-! ### Owner and name -/

/-- Without its blanks a segment is its name and its sign. -/
theorem filter_segment (segment : Segment) :
    segment.text.filter (fun c => !Text.isBlank c) = segment.name ++ [segment.sign] := by
  have hsign : Text.isBlank segment.sign = false := by
    rcases segment.isSeparator with hsign | hsign <;> rw [hsign] <;> decide
  have hgap : ∀ {gap : Text}, gap.IsBlanks → gap.filter (fun c => !Text.isBlank c) = [] :=
    fun hgap => List.filter_eq_nil_iff.mpr fun c hc => by simp [hgap c hc]
  simp [Segment.text, segment.isIdentifier.filter_isBlank, hgap segment.isBlanks_before,
    hgap segment.isBlanks_after, hsign]

/-- Without its blanks the name is that of the function with its owner. -/
theorem qualifiedName_signature (number : Nat) :
    (header.signature number).qualifiedName = header.chain.filter fun c => !Text.isBlank c := by
  have hchain : header.chain.filter (fun c => !Text.isBlank c) =
      header.owners.flatMap (fun segment => segment.name ++ [segment.sign]) ++ header.name := by
    rw [chain, List.filter_append, header.isIdentifier_name.filter_isBlank, List.filter_flatMap]
    simp only [filter_segment]
  rw [hchain]
  rcases List.eq_nil_or_concat header.owners with hnil | ⟨owners, last, howners⟩
  · simp [qualifiedName, signature, hnil]
  · rw [List.concat_eq_append] at howners
    obtain ⟨hinner, hrelation⟩ := header.sign_of_concat howners
    have hseparator : header.relation.separator? = some last.sign := by
      rw [hrelation]
      rcases last.isSeparator with hsign | hsign <;> rw [hsign] <;> rfl
    have hdots : owners.flatMap (fun segment => segment.name ++ [segment.sign]) =
        owners.flatMap fun segment => segment.name ++ ['.'] :=
      List.flatMap_congr fun segment hmem => by rw [hinner segment hmem]
    simp only [qualifiedName, signature, hseparator]
    rw [howners, List.flatMap_append, hdots, if_neg (by simp), List.map_append, List.map_singleton,
      Text.join_append_singleton, List.flatMap_map]
    simp

/-! ### Parameters -/

/-- The list of parameters has no closing parenthesis inside. -/
theorem not_mem_entries {c : Char} (hc : c = '(' ∨ c = ')') :
    c ∉ Text.join [','] header.entries := by
  intro hmem
  rcases Text.mem_join hmem with rfl | ⟨entry, hentry, hmem⟩
  · exact absurd hc (by decide)
  · have hplain := header.entries_plain entry hentry c hmem
    rcases hc with rfl | rfl <;> exact hplain (by decide)

/-- The parameters are what stands between the commas. -/
theorem splitParameters_list : splitParameters header.list =
    (header.entries.map Text.trim).filter fun parameter => !parameter.isEmpty := by
  have htrim : Text.trim header.list = header.list := by
    have hlast : header.list.getLast? = some ')' := by
      rw [list, ← List.cons_append, List.getLast?_concat]
    have hlist := @Text.trim_append header.list [] [] Text.isBlanks_nil Text.isBlanks_nil
      (fun c hc => by obtain rfl : '(' = c := by simpa [list] using hc
                      decide)
      (fun c hc => by obtain rfl : ')' = c := by simpa [hlast] using hc
                      decide)
    rwa [List.nil_append, List.append_nil] at hlist
  have hwithout : withoutParentheses header.list = Text.join [','] header.entries := by
    simp [withoutParentheses, list]
  rw [splitParameters, htrim, hwithout]
  by_cases hnone : header.entries = []
  · rw [hnone]
    rfl
  · rw [Text.splitOn_join (by decide) hnone]
    intro entry hentry c hc
    have hplain := header.entries_plain entry hentry c hc
    simp only [List.mem_cons, not_or] at hplain
    exact decide_eq_false hplain.2.2.1

/-! ### The line -/

/-- Nothing but the word `local` and blanks stands in front of a header. -/
theorem not_mem_front {c : Char} (hword : c ∉ "local".toList) (hblank : Text.isBlank c = false) :
    c ∉ header.front := by
  rw [front, List.mem_append, not_or]
  refine ⟨header.isBlanks_indentation.not_mem hblank, ?_⟩
  cases hlocal : header.localGap with
  | none => exact List.not_mem_nil
  | some gap =>
    rw [Option.elim_some, List.mem_append, not_or]
    exact ⟨hword, (header.isBlanks_localGap gap hlocal).2.not_mem hblank⟩

/-- A blank is the last character in front of a header, if there is one. -/
theorem getLast?_front : ∀ c ∈ header.front.getLast?, Text.isBlank c = true := by
  intro c hc
  rw [front] at hc
  cases hlocal : header.localGap with
  | none =>
    rw [hlocal, Option.elim_none, List.append_nil] at hc
    exact header.isBlanks_indentation c (List.mem_of_getLast? hc)
  | some gap =>
    obtain ⟨hne, hblanks⟩ := header.isBlanks_localGap gap hlocal
    rw [hlocal, Option.elim_some, ← List.append_assoc, List.getLast?_append_of_ne_nil _ hne] at hc
    exact hblanks c (List.mem_of_getLast? hc)

/-- Behind the word `function` the header is taken apart. -/
theorem header?_text (rest : Text) :
    header? (header.nameGap ++ (header.chain ++ header.listGap ++ header.list) ++ rest) =
      some ⟨header.chain ++ header.listGap ++ header.list, header.chain, header.list⟩ := by
  have hchain : '(' ∉ header.chain := header.not_mem_chain (by decide) (by decide) (by decide)
  have hgap : '(' ∉ header.listGap := header.isBlanks_listGap.not_mem (by decide)
  have htrim : Text.trim (header.chain ++ header.listGap) = header.chain := by
    obtain ⟨c, tail, hchain, hblank⟩ := header.head?_chain
    exact Text.trim_append Text.isBlanks_nil header.isBlanks_listGap
      (by simpa [hchain] using hblank) header.getLast?_chain
  refine header?_eq_some_iff.mpr ⟨header.chain ++ header.listGap,
    '(' :: Text.join [','] header.entries, rest, ?_, ?_, ?_, rfl, ?_⟩
  · obtain ⟨c, tail, hchain, hblank⟩ := header.head?_chain
    rw [List.append_assoc, Text.trimStart,
      List.dropWhile_append_of_pos header.isBlanks_nameGap, hchain]
    simp [list, hblank]
  · simp [hchain, hgap]
  · simp [header.not_mem_entries (Or.inr rfl)]
  · rw [htrim, list]
    simp

/-- The function of a line is the one whose header is written in front of it. -/
theorem ofLine?_text (number : Nat) (rest : Text) :
    ofLine? number (header.text ++ rest) = some (header.signature number) := by
  have hline : header.text ++ rest = header.front ++ ("function".toList ++
      (header.nameGap ++ (header.chain ++ header.listGap ++ header.list) ++ rest)) := by
    simp [text]
  have hcut : Text.cutAtWord? "function".toList Text.endsWord none (header.text ++ rest) =
      some (header.front,
        header.nameGap ++ (header.chain ++ header.listGap ++ header.list) ++ rest) := by
    rw [hline]
    refine Text.cutAtWord?_append (header.not_mem_front (by decide) (by decide)) ?_ ?_
    · intro c hc
      rw [Option.or_none] at hc
      exact Text.isWordPart_of_isBlank (header.getLast?_front c hc)
    · obtain ⟨c, gap, hgap⟩ := List.exists_cons_of_ne_nil header.nameGap_ne_nil
      have hblank := header.isBlanks_nameGap c (by simp [hgap])
      simp [hgap, Text.endsWord, Text.isWordPart_of_isBlank hblank]
  -- A comment begins with a dash, which stands neither in front of the word nor at its start.
  have hcode : ¬ (codeOf (header.text ++ rest)).length ≤ header.front.length := by
    intro hshort
    obtain ⟨behind, hsplit, hbehind⟩ := exists_behind_codeOf (header.text ++ rest)
    generalize codeOf (header.text ++ rest) = code at hshort hsplit
    obtain ⟨skipped, hfront⟩ : code <+: header.front :=
      List.prefix_of_prefix_length_le ⟨behind, hsplit.symm⟩ ⟨_, hline.symm⟩ hshort
    rw [hline, ← hfront, List.append_assoc] at hsplit
    have hdash : '-' ∉ skipped := fun hmem =>
      header.not_mem_front (by decide) (by decide) (hfront ▸ List.mem_append_right code hmem)
    have htail := (List.append_cancel_left hsplit).symm
    rcases hbehind with rfl | ⟨body, rfl⟩
    · cases skipped <;> cases htail
    · cases skipped with
      | nil => cases htail
      | cons c skipped =>
        obtain ⟨rfl, -⟩ := List.cons.inj htail
        exact hdash List.mem_cons_self
  have hchain : header.chain.isEmpty = false := by
    obtain ⟨c, tail, hchain, -⟩ := header.head?_chain
    rw [hchain]
    rfl
  have hsegments : segments header.chain = header.owners.map Segment.name ++ [header.name] :=
    segments_chain header.isIdentifier_name Text.isBlanks_nil
  simp only [ofLine?, hcut, Option.bind_eq_bind, Option.bind_some, header.header?_text rest, hcode,
    hchain, hsegments, header.relationOf_chain, header.splitParameters_list]
  simp [signature]

end WrittenHeader

/-! ## Lines -/

/-- A line has no `function` in it, or a header is written in front of it. -/
inductive Begins : Text → Option WrittenHeader → Prop where
  | wordless {line : Text} (hword : ¬ "function".toList <:+: line) : Begins line none
  | header (header : WrittenHeader) (rest : Text) : Begins (header.text ++ rest) (some header)

/-- The functions that are defined by the headers of numbered lines. -/
def writtenFrom (number : Nat) : List (Option WrittenHeader) → List Signature
  | [] => []
  | header? :: rest => (header?.map fun header => header.signature number).toList ++
      writtenFrom (number + 1) rest

/-- The functions of numbered lines are those of the headers in front of them. -/
theorem ofLines_eq_writtenFrom {lines : List Text} {headers : List (Option WrittenHeader)}
    (hlines : List.Forall₂ Begins lines headers) (number : Nat) :
    ofLines number lines = writtenFrom number headers := by
  induction hlines generalizing number with
  | nil => rfl
  | @cons line header? lines headers hline _ ih =>
    have hfound : ofLine? number line = header?.map fun header => header.signature number := by
      cases hline with
      | wordless hword =>
        exact ofLine?_of_wordless number fun hcode =>
          hword (hcode.trans (LineScan.codeOf_isInfix line))
      | header header rest => exact header.ofLine?_text number rest
    rw [ofLines, writtenFrom, hfound, ih]

/-- The names of these functions are the names in the headers. -/
theorem map_qualifiedName_writtenFrom (number : Nat) (headers : List (Option WrittenHeader)) :
    (writtenFrom number headers).map qualifiedName =
      headers.reduceOption.map fun header => header.chain.filter fun c => !Text.isBlank c := by
  induction headers generalizing number with
  | nil => rfl
  | cons header? headers ih =>
    cases header? with
    | none => exact ih (number + 1)
    | some header =>
      rw [writtenFrom, Option.map_some, Option.toList_some, List.singleton_append, List.map_cons,
        header.qualifiedName_signature, ih, List.reduceOption_cons_of_some, List.map_cons]

/-- A text whose lines have no `function` or begin with a header defines the functions of these
headers, in the order of the lines and with the numbers of the lines, and the name of each is that
in its header, without blanks. -/
theorem ofText_written {text : Text} {headers : List (Option WrittenHeader)}
    (hlines : List.Forall₂ Begins (Text.lines text) headers) :
    ofText text = writtenFrom 1 headers ∧
      (ofText text).map qualifiedName =
        headers.reduceOption.map fun header => header.chain.filter fun c => !Text.isBlank c := by
  have hfound : ofText text = writtenFrom 1 headers := ofLines_eq_writtenFrom hlines 1
  exact ⟨hfound, by rw [hfound, map_qualifiedName_writtenFrom]⟩

/-- A header with all that may be written in one. -/
def spacious : WrittenHeader where
  indentation := ['\t']
  localGap := some [' ']
  nameGap := "  ".toList
  owners :=
    [⟨"a".toList, [' '], '.', ['\t'], by decide, by decide, by decide, by decide⟩,
      ⟨"_b2".toList, [], ':', [' '], by decide, by decide, by decide, by decide⟩]
  name := "run".toList
  listGap := [' ']
  entries := ["x".toList, " ".toList, " y -- [[z".toList]
  isBlanks_indentation := by decide
  isBlanks_localGap := by decide
  isBlanks_nameGap := by decide
  nameGap_ne_nil := by decide
  sign_inner := by decide
  isIdentifier_name := by decide
  isBlanks_listGap := by decide
  entries_plain := by decide

/-- Another function and a comment behind the header make no difference, nor does a line that has
no function. -/
theorem ofText_written_spacious :
    List.Forall₂ Begins
        (Text.lines ("x = 1\n".toList ++ (spacious.text ++ " function g(u) -- end".toList)))
        [none, some spacious] ∧
      ofText ("x = 1\n".toList ++ (spacious.text ++ " function g(u) -- end".toList)) =
        [spacious.signature 2] ∧
      (ofText ("x = 1\n".toList ++ (spacious.text ++ " function g(u) -- end".toList))).map
        qualifiedName = ["a._b2:run".toList] := by
  have hlines : List.Forall₂ Begins
      (Text.lines ("x = 1\n".toList ++ (spacious.text ++ " function g(u) -- end".toList)))
      [none, some spacious] := by
    have hsplit : Text.lines ("x = 1\n".toList ++
        (spacious.text ++ " function g(u) -- end".toList)) =
        ["x = 1".toList, spacious.text ++ " function g(u) -- end".toList] := by decide
    rw [hsplit]
    exact .cons (.wordless (by decide)) (.cons (.header spacious _) .nil)
  exact ⟨hlines, (ofText_written hlines).1, (ofText_written hlines).2⟩

end Signature

end LuaAssist

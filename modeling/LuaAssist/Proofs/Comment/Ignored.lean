import LuaAssist.Proofs.Comment.Code
import LuaAssist.Proofs.Comment.LineByLine
import LuaAssist.Proofs.Comment.Overwritten
import LuaAssist.Proofs.Comment.Searches
import LuaAssist.Proofs.Text.Names
import Mathlib.Data.List.Infix

/-!
# Comments are ignored

Functions and references are looked for line by line. A line is read on its own there, and what is
found on it begins in its code, in front of its first comment. So overwriting the comments makes a
difference on just the lines that say something else when they are read on their own. A line does
not if nothing that begins in its code reaches into a comment, and nothing but comments and blanks
follows the code.
-/

namespace LuaAssist

open Text (Apart IsSolid)

/-! ## What a line says by its code -/

namespace Signature

variable {line code behind : Text} {number : Nat}

/-- What follows the code of a line stands apart from it. -/
theorem exists_apart (line : Text) :
    ∃ code behind, line = code ++ behind ∧ codeOf (code ++ behind) = code ∧ Apart behind := by
  obtain ⟨behind, hline, hbehind⟩ := exists_behind_codeOf line
  refine ⟨codeOf line, behind, hline, by rw [← hline], ?_⟩
  rcases hbehind with rfl | ⟨rest, rfl⟩
  · exact Or.inr (List.forall_mem_nil _)
  · exact Or.inl ⟨_, rfl⟩

/-- The function that a header defines, if the header has a name. -/
def ofHeader? (number : Nat) (header : Header) : Option Signature :=
  if header.qualified.isEmpty then none
  else
    let names := segments header.qualified
    some {
      display := header.display
      name := names.getLast?.getD []
      owner := if names.length ≤ 1 then none else some (Text.join ['.'] names.dropLast)
      relation := relationOf header.qualified
      rawParameters := header.rawParameters
      parameters := splitParameters header.rawParameters
      origin := none
      line := number }

/-- The code cut around its first `function`. -/
def cutCode? (code : Text) : Option (Text × Text) :=
  Text.cutAtWord? "function".toList Text.endsWord none code

/-- A word that ends with the code ends on the line. -/
theorem endsWord_append (hbehind : Apart behind) (after : Text) :
    Text.endsWord (after ++ behind) = Text.endsWord after := by
  cases after with
  | cons => rfl
  | nil =>
    rcases hbehind with ⟨rest, rfl⟩ | hblanks
    · have hdash : Text.isWordPart '-' = false := by decide
      simp [Text.endsWord, hdash]
    · cases behind with
      | nil => rfl
      | cons c behind =>
        simp [Text.endsWord, Text.isWordPart_of_isBlank (hblanks c List.mem_cons_self)]

/-- The function on a line is the one of the first `function` in its code, with a header that may
go on behind the code. -/
theorem ofLine?_eq_bind (number : Nat) (hbehind : Apart behind)
    (hcode : codeOf (code ++ behind) = code) :
    ofLine? number (code ++ behind) =
      (cutCode? code).bind fun cut => (header? (cut.2 ++ behind)).bind (ofHeader? number) := by
  have hsolid : IsSolid "function".toList := by decide
  have hfits : (fun after => Text.endsWord (after ++ behind)) = Text.endsWord :=
    funext (endsWord_append hbehind)
  unfold ofLine?
  cases hcut : cutCode? code with
  | some cut =>
    obtain ⟨before, after⟩ := cut
    have hcode' := Text.eq_of_cutAtWord? hcut
    rw [cutCode?, ← hfits] at hcut
    have hlonger := Text.cutAtWord?_append_some hbehind hsolid hcut
    have hshort : ¬ (codeOf (code ++ behind)).length ≤ before.length := by
      rw [hcode, hcode']
      simp
    rw [hlonger]
    simp only [Option.bind_eq_bind, Option.bind_some]
    congr 1
    funext header
    simp only [hshort, decide_false, Bool.false_or]
    rfl
  | none =>
    rw [cutCode?, ← hfits] at hcut
    rw [Option.bind_none]
    cases hfound : Text.cutAtWord? "function".toList Text.endsWord none (code ++ behind) with
    | none => rfl
    | some cut =>
      obtain ⟨before, after⟩ := cut
      obtain ⟨skipped, rfl, -⟩ := Text.cutAtWord?_append_none hbehind hsolid hcut hfound
      have hlong : (codeOf (code ++ behind)).length ≤ (code ++ skipped).length := by
        rw [hcode, List.length_append]
        omega
      simp only [Option.bind_eq_bind, Option.bind_some, hlong, decide_true, Bool.true_or, if_true]
      cases header? after <;> rfl

/-- Code without the word defines no function. -/
theorem ofLine?_of_wordless (number : Nat) (hword : ¬ "function".toList <:+: codeOf line) :
    ofLine? number line = none := by
  obtain ⟨code, behind, rfl, hcode, hbehind⟩ := exists_apart line
  rw [hcode] at hword
  have hcut : cutCode? code = none := by
    rw [Option.eq_none_iff_forall_ne_some]
    rintro ⟨before, after⟩ hcut
    exact hword ⟨before, after, (Text.eq_of_cutAtWord? hcut).symm⟩
  rw [ofLine?_eq_bind number hbehind hcode, hcut, Option.bind_none]

/-- A header that begins in the code ends there. -/
def HeaderEnds (line : Text) : Prop :=
  ∀ cut ∈ cutCode? (codeOf line),
    (header? (cut.2 ++ line.drop (codeOf line).length)).isSome → (header? cut.2).isSome

instance (line : Text) : Decidable (HeaderEnds line) :=
  inferInstanceAs (Decidable (∀ cut ∈ cutCode? (codeOf line), _))

/-- With blanks in the place of what follows the code, the function on a line is the same. -/
theorem ofLine?_append_blanks {blanks : Text} (number : Nat) (hbehind : Apart behind)
    (hcode : codeOf (code ++ behind) = code) (hblanks : ∀ c ∈ blanks, Text.isBlank c = true)
    (hwhole : codeOf (code ++ blanks) = code ++ blanks) (hends : HeaderEnds (code ++ behind)) :
    ofLine? number (code ++ blanks) = ofLine? number (code ++ behind) := by
  have hover := ofLine?_eq_bind number (Or.inr (List.forall_mem_nil _) : Apart [])
    (by rw [List.append_nil, hwhole] : codeOf (code ++ blanks ++ []) = code ++ blanks)
  have hcut : cutCode? (code ++ blanks) =
      (cutCode? code).map fun cut => (cut.1, cut.2 ++ blanks) :=
    Text.cutAtWord?_append_blanks hblanks (by decide) (by decide)
      (endsWord_append (Or.inr hblanks)) code
  rw [List.append_nil] at hover
  rw [hover, ofLine?_eq_bind number hbehind hcode, hcut]
  rw [HeaderEnds, hcode, List.drop_left] at hends
  cases hfound : cutCode? code with
  | none => rfl
  | some cut =>
    simp only [Option.map_some, Option.bind_some, List.append_nil]
    congr 1
    cases hheader : header? cut.2 with
    | some header => rw [header?_append hheader, header?_append hheader]
    | none =>
      have hmissing : header? (cut.2 ++ blanks) = none := by
        rw [Option.eq_none_iff_forall_ne_some]
        intro header hlonger
        rw [header?_of_blanks hblanks hlonger] at hheader
        cases hheader
      have hopen := mt (hends cut hfound) (by simp [hheader])
      rw [hmissing, Option.not_isSome_iff_eq_none.mp hopen]

end Signature

namespace Require

variable {line code behind : Text}

/-- What is left behind a sign is an end of the text. -/
theorem afterSign?_suffix {sign text rest : Text} (hrest : afterSign? sign text = some rest) :
    rest <:+ text := by
  unfold afterSign? at hrest
  dsimp only at hrest
  split at hrest
  · cases hrest
    exact (List.drop_suffix _ _).trans (List.dropWhile_suffix _)
  · cases hrest

/-- What is assigned is an end of the text. -/
theorem assigned?_suffix {text assigned : Text} (hassigned : assigned? text = some assigned) :
    assigned <:+ text := by
  obtain ⟨first, hfirst, hassigned⟩ := Option.bind_eq_some_iff.mp hassigned
  obtain ⟨second, hsecond, hthird⟩ := Option.bind_eq_some_iff.mp hassigned
  exact ((afterSign?_suffix hthird).trans (afterSign?_suffix hsecond)).trans
    (afterSign?_suffix hfirst)

/-- The code cut around the first `package` whose field `path` is assigned. -/
def cutCode? (code : Text) : Option (Text × Text) :=
  Text.cutAtWord? "package".toList (fun behind => (assigned? behind).isSome) none code

/-- What some code assigns to the search path. -/
def assignedIn (code : Text) : Text :=
  ((cutCode? code).bind fun cut => assigned? cut.2).getD []

/-- Whether a path is assigned does not depend on what follows the code. -/
theorem isSome_assigned?_append (hbehind : Apart behind) (after : Text) :
    (assigned? (after ++ behind)).isSome = (assigned? after).isSome := by
  rw [assigned?_append hbehind, Option.isSome_map]

/-- What a line assigns is assigned in its code. -/
theorem pathAssignment_eq (hbehind : Apart behind)
    (hcode : Signature.codeOf (code ++ behind) = code) :
    pathAssignment (code ++ behind) = assignedIn code := by
  have hsolid : IsSolid "package".toList := by decide
  have hfits := funext (isSome_assigned?_append hbehind)
  unfold pathAssignment assignedIn
  rw [hcode]
  dsimp only
  cases hcut : cutCode? code with
  | some cut =>
    obtain ⟨before, after⟩ := cut
    have hsplit := Text.eq_of_cutAtWord? hcut
    rw [cutCode?, ← hfits] at hcut
    have hover : cutCode? (code ++ behind) = some (before, after ++ behind) :=
      Text.cutAtWord?_append_some hbehind hsolid hcut
    rw [cutCode?] at hover
    rw [hover]
    have hlong : ¬ code.length ≤ before.length := by simp [hsplit]
    simp only [hlong, if_false, Option.bind_some, assigned?_append hbehind]
    cases hassigned : assigned? after with
    | none => simp
    | some assigned =>
      obtain ⟨front, rfl⟩ := assigned?_suffix hassigned
      have hstart : (code ++ behind).length - (assigned ++ behind).length =
          (before ++ "package".toList ++ front).length := by
        simp only [hsplit, List.length_append]
        omega
      simp only [Option.map_some, Option.getD_some, hstart]
      rw [hsplit, ← List.append_assoc, List.drop_left]
  | none =>
    rw [cutCode?, ← hfits] at hcut
    rw [Option.bind_none, Option.getD_none]
    cases hfound : Text.cutAtWord? "package".toList (fun behind => (assigned? behind).isSome) none
        (code ++ behind) with
    | none => rfl
    | some cut =>
      obtain ⟨before, after⟩ := cut
      obtain ⟨skipped, rfl, -⟩ := Text.cutAtWord?_append_none hbehind hsolid hcut hfound
      simp

/-- Code without the word assigns nothing. -/
theorem pathAssignment_of_wordless (hword : ¬ "package".toList <:+: Signature.codeOf line) :
    pathAssignment line = [] := by
  obtain ⟨code, behind, rfl, hcode, hbehind⟩ := Signature.exists_apart line
  rw [hcode] at hword
  have hcut : cutCode? code = none := by
    rw [Option.eq_none_iff_forall_ne_some]
    rintro ⟨before, after⟩ hcut
    exact hword ⟨before, after, (Text.eq_of_cutAtWord? hcut).symm⟩
  rw [pathAssignment_eq hbehind hcode, assignedIn, hcut]
  rfl

/-- With blanks in the place of what follows the code, the entries are the same. -/
theorem entries_append_blanks {blanks : Text} (hbehind : Apart behind)
    (hcode : Signature.codeOf (code ++ behind) = code)
    (hblanks : ∀ c ∈ blanks, Text.isBlank c = true)
    (hwhole : Signature.codeOf (code ++ blanks) = code ++ blanks) :
    entries (pathAssignment (code ++ blanks)) = entries (pathAssignment (code ++ behind)) := by
  have hover := pathAssignment_eq (Or.inr (List.forall_mem_nil _) : Apart [])
    (by rw [List.append_nil, hwhole] : Signature.codeOf (code ++ blanks ++ []) = code ++ blanks)
  have hcut : cutCode? (code ++ blanks) =
      (cutCode? code).map fun cut => (cut.1, cut.2 ++ blanks) :=
    Text.cutAtWord?_append_blanks hblanks (by decide) (by decide)
      (isSome_assigned?_append (Or.inr hblanks)) code
  rw [List.append_nil] at hover
  rw [hover, pathAssignment_eq hbehind hcode, assignedIn, assignedIn, hcut]
  cases cutCode? code with
  | none => rfl
  | some cut =>
    simp only [Option.map_some, Option.bind_some, assigned?_append (Or.inr hblanks)]
    cases assigned? cut.2 with
    | none => rfl
    | some assigned =>
      simp only [Option.map_some, Option.getD_some, entries, literals_append_blanks hblanks]

/-! ### References -/

/-- The names of the references that begin in the code are closed there. -/
def NamesEnd (line : Text) : Prop :=
  ∀ call ∈ callsFrom none 0 line, call.1 ≤ (Signature.codeOf line).length →
    call.1 + call.2.length < (Signature.codeOf line).length

instance (line : Text) : Decidable (NamesEnd line) :=
  inferInstanceAs (Decidable (∀ call ∈ callsFrom none 0 line, _))

/-- Code without the word has no references. -/
theorem ofLine_of_wordless (number : Nat) (hword : ¬ word <:+: Signature.codeOf line) :
    ofLine number line = [] := by
  obtain ⟨code, behind, rfl, hcode, hbehind⟩ := Signature.exists_apart line
  rw [hcode] at hword
  rw [ofLine, hcode]
  dsimp only
  rw [List.map_eq_nil_iff, List.eq_nil_iff_forall_not_mem]
  rintro ⟨found, name⟩ hmem
  have hfound : found < code.length := by simpa using List.mem_takeWhile_imp hmem
  obtain ⟨front, after, hsplit, hlt⟩ :=
    exists_word_of_mem_callsFrom (List.takeWhile_subset _ hmem)
  have hpre : front ++ word <+: code ++ behind := ⟨after, hsplit.symm⟩
  have hinside := List.prefix_of_prefix_length_le hpre (List.prefix_append code behind)
    (by rw [List.length_append]; omega)
  exact hword ((List.suffix_append front word).isInfix.trans hinside.isInfix)

/-- The references of a line are those of its code. -/
theorem ofLine_eq (number : Nat) (hbehind : Apart behind)
    (hcode : Signature.codeOf (code ++ behind) = code) (hends : NamesEnd (code ++ behind)) :
    ofLine number (code ++ behind) = (callsFrom none 0 code).map fun (offset, name) =>
      ⟨name, number, Text.utf8Length (code.take offset)⟩ := by
  rw [NamesEnd, hcode] at hends
  obtain ⟨last?, hcalls⟩ : ∃ last?, callsFrom none 0 (code ++ behind) =
      callsFrom none 0 code ++ callsFrom last? (0 + code.length) behind :=
    callsFrom_append hbehind (by simpa using hends)
  have hinside : ∀ call ∈ callsFrom none 0 code, call.1 < code.length := by
    rintro ⟨found, name⟩ hmem
    obtain ⟨-, place, rfl, hplace⟩ := callsFrom_spec hmem
    have hlength := hplace.lt_length
    dsimp only
    omega
  have hbeyond : ∀ call ∈ callsFrom last? (0 + code.length) behind, ¬ call.1 < code.length := by
    rintro ⟨found, name⟩ hmem
    obtain ⟨-, place, rfl, -⟩ := callsFrom_spec hmem
    dsimp only
    omega
  have hkept : (callsFrom none 0 (code ++ behind)).takeWhile
      (fun call => decide (call.1 < code.length)) = callsFrom none 0 code := by
    rw [hcalls, List.takeWhile_append_of_pos fun call hmem => decide_eq_true (hinside call hmem)]
    cases hlater : callsFrom last? (0 + code.length) behind with
    | nil => simp
    | cons call calls =>
      rw [hlater] at hbeyond
      rw [List.takeWhile_cons_of_neg (by simpa using hbeyond call List.mem_cons_self),
        List.append_nil]
  rw [ofLine, hcode]
  dsimp only
  rw [hkept]
  refine List.map_congr_left fun call hmem => ?_
  rw [List.take_append_of_le_length (Nat.le_of_lt (hinside call hmem))]

/-- On a line without comments every name is closed in the code. -/
theorem namesEnd_of_code (hcode : Signature.codeOf line = line) : NamesEnd line := by
  rintro ⟨found, name⟩ hmem -
  obtain ⟨-, place, rfl, hplace⟩ := callsFrom_spec hmem
  have hlength := hplace.lt_length
  rw [hcode]
  dsimp only
  omega

/-- With blanks in the place of what follows the code, the references are the same. -/
theorem ofLine_append_blanks {blanks : Text} (number : Nat) (hbehind : Apart behind)
    (hcode : Signature.codeOf (code ++ behind) = code)
    (hblanks : ∀ c ∈ blanks, Text.isBlank c = true)
    (hwhole : Signature.codeOf (code ++ blanks) = code ++ blanks)
    (hends : NamesEnd (code ++ behind)) :
    ofLine number (code ++ blanks) = ofLine number (code ++ behind) := by
  have hnone : Signature.codeOf (code ++ blanks ++ []) = code ++ blanks := by
    rw [List.append_nil, hwhole]
  have hover := ofLine_eq number (Or.inr (List.forall_mem_nil _) : Apart []) hnone
    (namesEnd_of_code (by rw [hnone, List.append_nil]))
  rw [List.append_nil, callsFrom_append_blanks hblanks] at hover
  rw [hover, ofLine_eq number hbehind hcode hends]
  refine List.map_congr_left fun ⟨found, name⟩ hmem => ?_
  obtain ⟨-, place, rfl, hplace⟩ := callsFrom_spec hmem
  have hlength := hplace.lt_length
  dsimp only
  rw [List.take_append_of_le_length (by omega)]

end Require

/-! ## One line -/

/-- A line on which nothing is found: no function, no reference and no entry of a search path. -/
structure IsSilent (line : Text) : Prop where
  function : Signature.ofLine? 0 line = none
  references : Require.ofLine 0 line = []
  entries : Require.entries (Require.pathAssignment line) = []

instance (line : Text) : Decidable (IsSilent line) :=
  decidable_of_iff (_ ∧ _ ∧ _) ⟨fun h => ⟨h.1, h.2.1, h.2.2⟩, fun h => ⟨h.1, h.2, h.3⟩⟩

namespace LineScan

/-- The comments of a scanned line stand where they make no difference: there are none; or they
and blanks are all that follows the code, and nothing that begins in the code reaches into them;
or nothing is found on the line, with its comments or with blanks in their place. -/
inductive Harmless (scan : LineScan) : Prop
  | uncommented (hnone : ∀ token ∈ scan.tokens, token.kind.isComment = false)
  | trailing {blanks : Text} (hblanks : ∀ c ∈ blanks, Text.isBlank c = true)
      (hover : scan.overwritten = Signature.codeOf scan.text ++ blanks)
      (hheader : Signature.HeaderEnds scan.text) (hnames : Require.NamesEnd scan.text)
  | silent (hline : IsSilent scan.text) (hover : IsSilent scan.overwritten)

/-- Whether comments are harmless can be checked. -/
instance (scan : LineScan) : Decidable scan.Harmless :=
  decidable_of_iff ((∀ token ∈ scan.tokens, token.kind.isComment = false) ∨
      (Signature.codeOf scan.text <+: scan.overwritten ∧
        (∀ c ∈ scan.overwritten.drop (Signature.codeOf scan.text).length,
          Text.isBlank c = true) ∧
        Signature.HeaderEnds scan.text ∧ Require.NamesEnd scan.text) ∨
      (IsSilent scan.text ∧ IsSilent scan.overwritten)) <| by
    constructor
    · rintro (hnone | ⟨⟨blanks, hover⟩, hblanks, hheader, hnames⟩ | ⟨hline, hover⟩)
      · exact .uncommented hnone
      · rw [← hover, List.drop_left] at hblanks
        exact .trailing hblanks hover.symm hheader hnames
      · exact .silent hline hover
    · rintro (hnone | ⟨hblanks, hover, hheader, hnames⟩ | ⟨hline, hover⟩)
      · exact Or.inl hnone
      · rw [hover, List.drop_left]
        exact Or.inr (Or.inl ⟨List.prefix_append _ _, hblanks, hheader, hnames⟩)
      · exact Or.inr (Or.inr ⟨hline, hover⟩)

/-- A line without comments is not changed. -/
theorem overwritten_of_uncommented {scan : LineScan}
    (hnone : ∀ token ∈ scan.tokens, token.kind.isComment = false) :
    scan.overwritten = scan.text := by
  unfold overwritten text
  rw [List.map_congr_left fun token hmem => Token.overwritten_of_other (hnone token hmem)]

/-- Code is the front of a line. -/
theorem codeOf_isInfix (line : Text) : Signature.codeOf line <:+: line := by
  obtain ⟨behind, hline, -⟩ := Signature.exists_behind_codeOf line
  exact ⟨[], behind, hline.symm⟩

/-- On such a line overwriting the comments changes nothing that is found. -/
theorem Harmless.found_eq {scan : LineScan} (hharmless : scan.Harmless) :
    Signature.ofLine? 0 scan.overwritten = Signature.ofLine? 0 scan.text ∧
      Require.ofLine 0 scan.overwritten = Require.ofLine 0 scan.text ∧
      Require.entries (Require.pathAssignment scan.overwritten) =
        Require.entries (Require.pathAssignment scan.text) := by
  cases hharmless with
  | uncommented hnone =>
    rw [overwritten_of_uncommented hnone]
    exact ⟨rfl, rfl, rfl⟩
  | @trailing blanks hblanks hover hheader hnames =>
    have hbytes := scan.utf8Length_overwritten
    generalize scan.text = line at *
    obtain ⟨behind, hline, hbehind⟩ := Signature.exists_behind_codeOf line
    generalize hcode : Signature.codeOf line = code at *
    subst hline
    rw [hover]
    rcases hbehind with rfl | ⟨rest, rfl⟩
    · -- The line has no comment on its own, so its bytes are all there without the blanks.
      rw [hover, Text.utf8Length_append, List.append_nil, Nat.add_eq_left,
        Text.utf8Length_eq_zero] at hbytes
      rw [hbytes]
      exact ⟨rfl, rfl, rfl⟩
    · have hdash : '-' ∉ blanks := fun hmem => absurd (hblanks _ hmem) (by decide)
      have hapart : Apart ('-' :: '-' :: rest) := Or.inl ⟨_, rfl⟩
      have hwhole := Signature.codeOf_append rest hcode hdash
      exact ⟨Signature.ofLine?_append_blanks 0 hapart hcode hblanks hwhole hheader,
        Require.ofLine_append_blanks 0 hapart hcode hblanks hwhole hnames,
        Require.entries_append_blanks hapart hcode hblanks hwhole⟩
  | silent hline hover =>
    exact ⟨hover.function.trans hline.function.symm, hover.references.trans hline.references.symm,
      hover.entries.trans hline.entries.symm⟩

end LineScan

/-! ## The whole text -/

namespace Highlight

/-- With its comments overwritten a text defines the same functions, has the same references and
has the same search patterns if and only if these are found on its overwritten lines, each read on
its own. They all are if the comments on every line stand where they make no difference. -/
theorem comments_ignored (placeholder : Char) (text : Text) :
    (Signature.ofText (overwritten text) = Signature.ofText text ↔
        ∀ scan ∈ document text,
          Signature.ofLine? 0 scan.overwritten = Signature.ofLine? 0 scan.text) ∧
      ((Require.declarations placeholder (overwritten text)).references =
          (Require.declarations placeholder text).references ↔
        ∀ scan ∈ document text, Require.ofLine 0 scan.overwritten = Require.ofLine 0 scan.text) ∧
      ((Require.declarations placeholder (overwritten text)).patterns =
          (Require.declarations placeholder text).patterns ↔
        ((document text).flatMap fun scan =>
            Require.patternsOn placeholder scan.overwritten).eraseDups =
          ((document text).flatMap fun scan =>
            Require.patternsOn placeholder scan.text).eraseDups) ∧
      ((∀ scan ∈ document text, scan.Harmless) →
        Signature.ofText (overwritten text) = Signature.ofText text ∧
          Require.declarations placeholder (overwritten text) =
            Require.declarations placeholder text) := by
  have hover := lines_overwritten text
  have hself := (map_text_document text).symm
  have hfunctions : Signature.ofText (overwritten text) = Signature.ofText text ↔
      ∀ scan ∈ document text,
        Signature.ofLine? 0 scan.overwritten = Signature.ofLine? 0 scan.text := by
    rw [Signature.ofText, Signature.ofText, Signature.ofLines_eq_findFrom,
      Signature.ofLines_eq_findFrom, hover, hself,
      findFrom_map_eq_iff (fun _ _ => Signature.line_of_mem_ofLine?) Signature.ofLine?_renumber]
    simp only [toList_eq_toList_iff]
  have hreferences : (Require.declarations placeholder (overwritten text)).references =
      (Require.declarations placeholder text).references ↔
        ∀ scan ∈ document text, Require.ofLine 0 scan.overwritten = Require.ofLine 0 scan.text := by
    rw [Require.declarations, Require.declarations]
    dsimp only
    rw [Require.referencesFrom_eq_findFrom, Require.referencesFrom_eq_findFrom, hover, hself,
      findFrom_map_eq_iff (fun _ _ _ hmem => (Require.ofLine_spec hmem).2.1)
        Require.ofLine_renumber]
  have hpatterns : (Require.declarations placeholder (overwritten text)).patterns =
      (Require.declarations placeholder text).patterns ↔
        ((document text).flatMap fun scan =>
            Require.patternsOn placeholder scan.overwritten).eraseDups =
          ((document text).flatMap fun scan =>
            Require.patternsOn placeholder scan.text).eraseDups := by
    rw [Require.patterns_eq_eraseDups, Require.patterns_eq_eraseDups, hover, hself,
      List.flatMap_map, List.flatMap_map]
  refine ⟨hfunctions, hreferences, hpatterns, fun hharmless => ⟨?_, ?_⟩⟩
  · exact hfunctions.mpr fun scan hscan => (hharmless scan hscan).found_eq.1
  · refine Declarations.ext_iff.mpr ⟨hreferences.mpr fun scan hscan => ?_,
      hpatterns.mpr (congrArg List.eraseDups (List.flatMap_congr fun scan hscan => ?_))⟩
    · exact (hharmless scan hscan).found_eq.2.1
    · rw [Require.patternsOn, (hharmless scan hscan).found_eq.2.2, ← Require.patternsOn]

/-- Comments behind code, over several lines, in front of code and between code, and prose in
them. -/
def commented : Text :=
  ("local m = require('m') -- 'n'\n--[[ a\nb ]] x = 1\ny = 2 --[[ function g() ]] z = 3\n" ++
    "--[[\nThis function adds two numbers.\n]]\nfunction add(a, b) end").toList

/-- The module is still required at its place, and the function below the prose is still defined.
-/
theorem comments_ignored_commented :
    (∀ scan ∈ document commented, scan.Harmless) ∧
      (Require.declarations '?' (overwritten commented)).references = [⟨['m'], 0, 19⟩] ∧
      (Signature.ofText (overwritten commented)).map Signature.display = ["add(a, b)".toList] := by
  have hharmless : ∀ scan ∈ document commented, scan.Harmless := by decide +kernel
  obtain ⟨-, -, -, hsame⟩ := comments_ignored '?' commented
  rw [(hsame hharmless).1, (hsame hharmless).2]
  exact ⟨hharmless, by decide +kernel, by decide +kernel⟩

/-- A line inside a comment over several lines is read on its own, as code. -/
theorem comments_not_ignored :
    let text := "--[[\nrequire(\"x\")\n]]".toList
    Require.declarations '?' (overwritten text) ≠ Require.declarations '?' text := by
  decide +kernel

end Highlight

end LuaAssist

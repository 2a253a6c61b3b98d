import LuaAssist.Proofs.Session.Display
import LuaAssist.Proofs.Text.Utf16
import LuaAssist.Proofs.Text.Utf8
import Mathlib.Data.List.Forall2

/-!
# The parameters in the label of a hint

The label of a function and the ranges of its parameters are computed apart. The ranges follow one
another, and each selects the bytes of its parameter among the bytes of the label. An editor is told
the ranges in UTF-16 units, and there too they select the parameters.
-/

namespace LuaAssist

/-- From the units of a text a range selects those of a part. -/
structure Selects {α : Type} (units part : List α) (range : Nat × Nat) : Prop where
  ordered : range.1 ≤ range.2
  within : range.2 ≤ units.length
  selected : units.extract range.1 range.2 = part

/-- A part is selected by the range that begins behind what stands in front of it. -/
theorem selects_append {α : Type} (front part behind : List α) :
    Selects (front ++ part ++ behind) part (front.length, front.length + part.length) where
  ordered := Nat.le_add_right _ _
  within := by simp
  selected := by
    rw [List.extract_eq_take_drop, List.append_assoc, List.drop_left, Nat.add_sub_cancel_left,
      List.take_left]

namespace HintSignature

/-! ## Ranges -/

/-- A range tells how many bytes of a text stand in front of a part of it and up to its end. -/
def Delimits (label part : Text) (range : Nat × Nat) : Prop :=
  ∃ front behind, label = front ++ part ++ behind ∧
    range = (Text.utf8Length front, Text.utf8Length (front ++ part))

/-- What a range delimits it selects among the bytes. -/
theorem Delimits.selects_bytes {label part : Text} {range : Nat × Nat}
    (hrange : Delimits label part range) :
    Selects (Text.toUtf8 label) (Text.toUtf8 part) range := by
  obtain ⟨front, behind, rfl, rfl⟩ := hrange
  have hselects := selects_append (Text.toUtf8 front) (Text.toUtf8 part) (Text.toUtf8 behind)
  rwa [← Text.toUtf8_append, ← Text.toUtf8_append, Text.length_toUtf8, Text.length_toUtf8,
    ← Text.utf8Length_append] at hselects

/-- The columns of both ends select the same part among the UTF-16 units. -/
theorem Delimits.selects_units {label part : Text} {range : Nat × Nat}
    (hrange : Delimits label part range) :
    Selects (Text.toUtf16 label) (Text.toUtf16 part)
      (Document.utf16Column label range.1, Document.utf16Column label range.2) := by
  obtain ⟨front, behind, rfl, rfl⟩ := hrange
  have hstart : Document.utf16Column (front ++ part ++ behind) (Text.utf8Length front) =
      Text.utf16Length front := by
    rw [List.append_assoc, Document.utf16Column_append]
  have hselects := selects_append (Text.toUtf16 front) (Text.toUtf16 part) (Text.toUtf16 behind)
  rw [hstart, Document.utf16Column_append, Text.utf16Length_append]
  rwa [← Text.toUtf16_append, ← Text.toUtf16_append, Text.length_toUtf16, Text.length_toUtf16]
    at hselects

/-- Behind a front, the ranges delimit the parameters with a comma and a space between them. -/
theorem delimits_rangesFrom (front behind : Text) (parameters : List Text) :
    List.Forall₂ (Delimits (front ++ Text.join [',', ' '] parameters ++ behind)) parameters
      (rangesFrom (Text.utf8Length front) parameters) := by
  induction parameters generalizing front with
  | nil => exact .nil
  | cons parameter rest ih =>
    cases rest with
    | nil =>
      rw [rangesFrom, ← Text.utf8Length_append]
      exact .cons ⟨front, behind, rfl, rfl⟩ .nil
    | cons next rest =>
      have hlabel : front ++ Text.join [',', ' '] (parameter :: next :: rest) ++ behind =
          front ++ parameter ++ [',', ' '] ++ Text.join [',', ' '] (next :: rest) ++ behind := by
        simp [Text.join]
      have hrest := ih (front ++ parameter ++ [',', ' '])
      have hgap : Text.utf8Length [',', ' '] = 2 := rfl
      rw [← hlabel, Text.utf8Length_append, hgap] at hrest
      rw [rangesFrom, ← Text.utf8Length_append]
      have hfirst : Delimits (front ++ Text.join [',', ' '] (parameter :: next :: rest) ++ behind)
          parameter (Text.utf8Length front, Text.utf8Length (front ++ parameter)) :=
        ⟨front, [',', ' '] ++ Text.join [',', ' '] (next :: rest) ++ behind,
          by simp [Text.join], rfl⟩
      exact .cons hfirst hrest

/-- No range begins in front of the place from which on they are counted, and each ends in front
of the next. -/
theorem pairwise_rangesFrom (start : Nat) (parameters : List Text) :
    (∀ range ∈ rangesFrom start parameters, start ≤ range.1) ∧
      (rangesFrom start parameters).Pairwise fun first second => first.2 < second.1 := by
  induction parameters generalizing start with
  | nil => exact ⟨List.forall_mem_nil _, .nil⟩
  | cons parameter rest ih =>
    obtain ⟨hbegin, hordered⟩ := ih (start + Text.utf8Length parameter + 2)
    rw [rangesFrom, List.forall_mem_cons, List.pairwise_cons]
    refine ⟨⟨Nat.le_refl _, fun range hrange => ?_⟩, fun range hrange => ?_, hordered⟩
    · have hlater := hbegin range hrange
      omega
    · have hlater := hbegin range hrange
      omega

variable (signature : HintSignature)

/-- The ranges are counted from the end of what stands before the parameters. -/
theorem parameterRanges_eq : signature.parameterRanges =
    rangesFrom (Text.utf8Length signature.opening) signature.parameters := by
  have hparenthesis : Text.utf8Length ['('] = 1 := rfl
  have hspace : Text.utf8Length [' '] = 1 := rfl
  unfold parameterRanges opening
  rw [Text.utf8Length_append, Text.utf8Length_append, hparenthesis]
  split
  · rfl
  · rw [Text.utf8Length_append, hspace]

/-- The ranges delimit the parameters in the label. -/
theorem delimits_parameterRanges :
    List.Forall₂ (Delimits signature.label) signature.parameters signature.parameterRanges := by
  rw [parameterRanges_eq]
  exact delimits_rangesFrom signature.opening [')'] signature.parameters

/-! ## What an editor selects -/

/-- A function of a hint is shown with its label, and the columns of each parameter select its
UTF-16 units in the label. -/
structure ShownAs (signature : HintSignature) (shown : Session.HelpLabel) : Prop where
  label : shown.label = signature.label
  parameters : List.Forall₂
    (fun parameter => Selects (Text.toUtf16 shown.label) (Text.toUtf16 parameter))
    signature.parameters shown.parameters

/-- Every function of a hint is shown so. -/
theorem shownAs_helpLabel : signature.ShownAs (Session.helpLabel signature) where
  label := rfl
  parameters := by
    show List.Forall₂ _ signature.parameters (signature.parameterRanges.map _)
    rw [List.forall₂_map_right_iff]
    exact signature.delimits_parameterRanges.imp fun parameter range hrange => hrange.selects_units

/-- Every parameter of a function has one range, each range ends in front of the next, and it
selects the bytes of its parameter in the label. In the answer to a request for a hint the functions
that are found for the call are shown so that the columns select the parameters. -/
theorem ranges_select_parameters :
    (∀ signature : HintSignature,
      signature.parameterRanges.length = signature.parameters.length ∧
      (signature.parameterRanges.Pairwise fun first second => first.2 < second.1) ∧
      List.Forall₂ (fun parameter => Selects (Text.toUtf8 signature.label) (Text.toUtf8 parameter))
        signature.parameters signature.parameterRanges) ∧
    ∀ (tree : FileTree) (uri : Uri) (position : Position) (session : Session) (help : Session.Help),
      (session.signatureHelp tree uri position).1 = some help →
      ∃ document hint, session.document? uri = some document ∧
        (let (_, visible, after) := session.functions tree uri document.text
        Hint.find? document.text (Document.offsetOf document.text position) visible
          (after.store.calls tree).1 = some hint) ∧
        List.Forall₂ ShownAs hint.signatures help.labels := by
  refine ⟨fun signature => ⟨?_, ?_, ?_⟩, fun tree uri position session help hhelp => ?_⟩
  · exact signature.delimits_parameterRanges.length_eq.symm
  · rw [parameterRanges_eq]
    exact (pairwise_rangesFrom _ _).2
  · exact signature.delimits_parameterRanges.imp fun parameter range hrange => hrange.selects_bytes
  · unfold Session.signatureHelp at hhelp
    cases hdocument : session.document? uri with
    | none =>
      rw [hdocument] at hhelp
      cases hhelp
    | some document =>
      rw [hdocument] at hhelp
      obtain ⟨hint, hhint, rfl⟩ := Option.map_eq_some_iff.mp hhelp
      refine ⟨document, hint, rfl, hhint, ?_⟩
      rw [List.forall₂_map_right_iff]
      exact List.forall₂_same.mpr fun signature _ => signature.shownAs_helpLabel

/-- The address of a document that is not a file. -/
def partyUri : Uri := ⟨"untitled".toList, none, none, .opaqueText "party".toList, none, none⟩

/-- A document with a function whose parameters take two bytes and one unit, and four bytes and two
units. -/
def partyText : Text := "function f(é, 🎉)\nf(".toList

/-- A session in which the document is open. -/
def partySession : Session :=
  (Session.new { Config.default none with builtins := false }).openDocument partyUri partyText none

/-- The second parameter is shown behind a letter that has more bytes than units. -/
theorem ranges_select_parameters_party :
    (⟨['f'], [], [['é'], ['🎉']]⟩ : HintSignature).parameterRanges = [(2, 4), (6, 10)] ∧
      (partySession.signatureHelp .empty partyUri ⟨1, 2⟩).1 =
        some ⟨[⟨"f(é, 🎉)".toList, [(2, 3), (5, 7)]⟩], some 0⟩ ∧
      ∃ document hint, partySession.document? partyUri = some document ∧
        (let (_, visible, after) := partySession.functions .empty partyUri document.text
        Hint.find? document.text (Document.offsetOf document.text ⟨1, 2⟩) visible
          (after.store.calls .empty).1 = some hint) ∧
        List.Forall₂ ShownAs hint.signatures [⟨"f(é, 🎉)".toList, [(2, 3), (5, 7)]⟩] := by
  have hhelp : (partySession.signatureHelp .empty partyUri ⟨1, 2⟩).1 =
      some ⟨[⟨"f(é, 🎉)".toList, [(2, 3), (5, 7)]⟩], some 0⟩ := by decide +kernel
  exact ⟨by decide, hhelp, ranges_select_parameters.2 _ _ _ _ _ hhelp⟩

end HintSignature

end LuaAssist

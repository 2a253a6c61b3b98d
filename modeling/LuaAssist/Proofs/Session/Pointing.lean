import LuaAssist.Proofs.Require.Quoted
import LuaAssist.Proofs.Session.Caches

/-!
# Where reports point

A report about a missing module shall point at the name of the module. Its place is counted by line
feeds, and the document counts lines by all its breaks. So the report points at the name just if no
other break stands in front of the name or in it.
-/

namespace LuaAssist.Session

open Document (FeedsOnly offsetOf textAt foundOffset)
open Require (QuotedAt)

variable {session : Session} {documents : List (Uri × OpenDocument)} {config : Config}

/-! ## Runs -/

/-- No question makes wrong what is known of open texts. -/
theorem Declared.answer (h : session.Declared documents config) (tree : FileTree)
    (question : Question) : (session.answer tree question).2.Declared documents config := by
  cases question with
  | completion uri position reason => exact h.completion tree uri position reason
  | signatureHelp uri position => exact h.signatureHelp tree uri position
  | displayTokens uri => exact h
  | documentSymbols uri => exact h.documentSymbols uri
  | workspaceSymbols query => exact h.symbolsOfAll query _
  | onTypeEdit uri line typed tabSize spaces => exact h
  | diagnostics uri => exact h.diagnostics tree uri

/-- No event makes wrong what is known of open texts. -/
theorem KnowsItself.after (h : session.KnowsItself) (event : Event) :
    (session.after event).KnowsItself := by
  cases event with
  | opened uri text version => exact (h.withDocuments _).knowsItself
  | changed uri change => exact (h.withDocuments _).knowsItself
  | numbered uri version => exact (h.withDocuments _).knowsItself
  | closed uri => exact (h.withDocuments _).knowsItself
  | configured other => exact (h.configure other).knowsItself
  | invalidated uri => exact (h.invalidate uri).knowsItself
  | asked tree question => exact (h.answer tree question).knowsItself

/-- In every run what is known of open texts is right, whatever happens to the files. -/
theorem knowsItself_run (config : Config) (events : List Event) :
    (run config events).KnowsItself := by
  have hfrom (session : Session) (h : session.KnowsItself) :
      (events.foldl Session.after session).KnowsItself := by
    induction events generalizing session with
    | nil => exact h
    | cons event rest ih => exact ih _ (h.after event)
  exact hfrom (new config) (declared_new config).knowsItself

/-! ## Reports -/

/-- The offsets at which a report begins and ends are those that the document finds for the ends of
the name. -/
theorem offsetOf_unresolved {text : Text} {placeholder : Char} {reference : Reference}
    (hmem : reference ∈ (Require.declarations placeholder text).references) (severity : Severity) :
    reference.name ≠ [] ∧ ∃ place, QuotedAt reference.name text place ∧
      offsetOf text (unresolved text severity reference).range.start = foundOffset text place ∧
      offsetOf text (unresolved text severity reference).range.stop =
        foundOffset text (place + reference.name.length) := by
  obtain ⟨hname, place, hplace, hstart, hstop⟩ := Require.declarations_spec hmem
  refine ⟨hname, place, hplace, ?_, ?_⟩
  · unfold foundOffset
    rw [hstart]
    rfl
  · unfold foundOffset
    rw [hstop]
    rfl

/-- A character of a text, told by what stands in front of it. -/
theorem getElem?_of_eq_append {text front behind : Text} {c : Char}
    (heq : text = front ++ c :: behind) {index : Nat} (hindex : index = front.length) :
    text[index]? = some c := by
  rw [heq, hindex, List.getElem?_append_right (Nat.le_refl _), Nat.sub_self]
  rfl

/-- Directly behind a quote, and directly in front of one, no return is split. -/
theorem not_splitsReturn_of_quotedAt {name text : Text} {place : Nat}
    (hplace : QuotedAt name text place) :
    ¬Document.SplitsReturn text place ∧ ¬Document.SplitsReturn text (place + name.length) := by
  obtain ⟨front, quote, behind, hquote, heq, rfl⟩ := hplace
  have hclosing : text = (front ++ quote :: name) ++ quote :: behind := by
    rw [heq, List.append_assoc, List.cons_append]
  constructor
  · rintro ⟨before, rest, hreturn, hlength⟩
    have hchar := getElem?_of_eq_append hreturn (Nat.succ.inj hlength)
    obtain rfl := Option.some.inj ((getElem?_of_eq_append heq rfl).symm.trans hchar)
    cases hquote
  · rintro ⟨before, rest, hreturn, hlength⟩
    rw [List.append_cons] at hreturn
    have hend : front.length + 1 + name.length = (front ++ quote :: name).length := by
      rw [List.length_append, List.length_cons]
      omega
    have hindex : front.length + 1 + name.length = (before ++ ['\r']).length := by
      rwa [List.length_append]
    have hchar := getElem?_of_eq_append hreturn hindex
    obtain rfl := Option.some.inj ((getElem?_of_eq_append hclosing hend).symm.trans hchar)
    cases hquote

/-- The ends of a quoted name are found both just if all breaks in front of its last character are
line feeds, or belong to one. -/
theorem foundOffset_quotedAt_iff {name text : Text} {place : Nat}
    (hplace : QuotedAt name text place) :
    (foundOffset text place = place ∧
        foundOffset text (place + name.length) = place + name.length) ↔
      FeedsOnly text (place + name.length - 1) := by
  obtain ⟨hstart, hstop⟩ := not_splitsReturn_of_quotedAt hplace
  have hlength := hplace.lt_length
  rw [(Document.foundOffset_spec (by omega) hstart).2,
    (Document.foundOffset_spec (by omega) hstop).2]
  exact ⟨fun hboth => hboth.2, fun hfeeds => ⟨hfeeds.mono (by omega), hfeeds⟩⟩

/-- The part of a text that a range of positions covers. -/
def covered (text : Text) (range : Range) : Text :=
  textAt text (offsetOf text range.start) (offsetOf text range.stop - offsetOf text range.start)

/-- In every run each report about an open document is about a reference of the document that leads
nowhere. The name of the module stands in the document between two quotes. The report begins where
the name begins and ends where the name ends just if all breaks in front of the last character of
the name are line feeds, or carriage returns with a line feed behind them; and then what the report
covers is the name. -/
theorem diagnostics_point_at_name (config : Config) (events : List Event) (tree : FileTree)
    (uri : Uri) (report : Diagnostic)
    (hreport : report ∈ ((run config events).diagnostics tree uri).1) :
    ∃ document path reference place,
      (run config events).document? uri = some document ∧ uri.toPath? = some path ∧
        let rule := (run config events).config.indexRule.search
        let declared := Require.declarations rule.placeholder document.text
        reference ∈ declared.references ∧
          Resolve.file? tree rule declared.patterns path reference.name = none ∧
          report.message = "Module '".toList ++ reference.name ++ "' not found".toList ∧
          reference.name ≠ [] ∧ QuotedAt reference.name document.text place ∧
          ((offsetOf document.text report.range.start = place ∧
              offsetOf document.text report.range.stop = place + reference.name.length) ↔
            FeedsOnly document.text (place + reference.name.length - 1)) ∧
          (FeedsOnly document.text (place + reference.name.length - 1) →
            covered document.text report.range = reference.name) := by
  have hknows := knowsItself_run config events
  generalize run config events = session at hreport hknows
  have hopen : ∃ document, session.document? uri = some document := by
    unfold diagnostics at hreport
    split at hreport
    · cases hreport
    · split at hreport
      · exact ⟨_, ‹_›⟩
      · cases hreport
  obtain ⟨document, hdocument⟩ := hopen
  rw [hknows.diagnostics_fst tree hdocument] at hreport
  unfold reportsOn at hreport
  split at hreport
  · rename_i path _ hpath
    obtain ⟨reference, hunresolved, rfl⟩ := List.mem_map.mp hreport
    obtain ⟨hmem, hfile⟩ := List.mem_filter.mp hunresolved
    obtain ⟨hname, place, hplace, hstart, hstop⟩ :=
      offsetOf_unresolved hmem session.config.severity
    have hexact := foundOffset_quotedAt_iff hplace
    rw [← hstart, ← hstop] at hexact
    refine ⟨document, path, reference, place, hdocument, hpath, hmem, by simpa using hfile, rfl,
      hname, hplace, hexact, fun hfeeds => ?_⟩
    obtain ⟨hbegins, hends⟩ := hexact.mpr hfeeds
    unfold covered
    rw [hbegins, hends, Nat.add_sub_cancel_left]
    exact hplace.textAt
  · cases hreport

/-! ## Examples -/

/-- The address of a file. -/
def mainFile : Uri := ⟨Uri.fileScheme, some [], none, .segments ["main.lua".toList], none, none⟩

/-- The reports about a document that was opened with a text and may require nothing. -/
def reportsOnOpened (text : Text) : List Diagnostic :=
  ((run (Config.default none) [.opened mainFile text none]).diagnostics .empty mainFile).1

/-- Two lines, ended as on different systems, in front of a reference. -/
def twoEnds : Text := "a\r\nb\nrequire 'm'".toList

/-- The report covers the name behind lines that end in either way. -/
theorem diagnostics_point_at_name_ends :
    ∃ report ∈ reportsOnOpened twoEnds,
      report.message = "Module 'm' not found".toList ∧
        covered twoEnds report.range = ['m'] := by
  have hmem : ⟨⟨⟨2, 9⟩, ⟨2, 10⟩⟩, .warning, "Module 'm' not found".toList⟩ ∈
      reportsOnOpened twoEnds := by decide +kernel
  obtain ⟨document, _, reference, place, hopen, -, -, -, hmessage, -, hplace, -, hcovered⟩ :=
    diagnostics_point_at_name (Config.default none) [.opened mainFile twoEnds none] .empty mainFile
      _ hmem
  have htext : document.text = twoEnds := congrArg OpenDocument.text (Option.some.inj hopen).symm
  have hname : reference.name = ['m'] :=
    List.append_cancel_left (List.append_cancel_right hmessage.symm)
  rw [htext] at hplace hcovered
  have hfeeds : FeedsOnly twoEnds twoEnds.length := by decide
  have hlength := hplace.lt_length
  exact ⟨_, hmem, rfl, (hcovered (hfeeds.mono (by omega))).trans hname⟩

/-- A carriage return alone ends a line of the document, but the reference behind it does not know
this. The report covers nothing. -/
theorem diagnostics_miss_name :
    ∃ report ∈ reportsOnOpened "a\rrequire(\"x\")".toList,
      report.message = "Module 'x' not found".toList ∧
        covered "a\rrequire(\"x\")".toList report.range ≠ ['x'] := by
  refine ⟨⟨⟨⟨0, 2⟩, ⟨0, 2⟩⟩, .warning, "Module 'x' not found".toList⟩, ?_, rfl, ?_⟩
  · decide +kernel
  · decide +kernel

end LuaAssist.Session

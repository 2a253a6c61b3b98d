import LuaAssist.Proofs.Cache.Recorded
import LuaAssist.Session.Answers

/-!
# What a session knows of open texts

What an open text requires is kept under the text itself, so no change to a file makes it wrong.
Nothing that a session is asked for alters it otherwise than by adding what is right, and so the
reports about an open document depend on its text, the settings and the files there are alone.
-/

namespace LuaAssist

/-- An invariant of the steps of a search is one of the search. -/
theorem Reach.breadthFirst_keeps {α κ σ : Type} [DecidableEq κ] {key : α → κ} {domain : List κ}
    {expand : α → σ → List α × σ} {invariant : σ → Prop}
    (hexpand : ∀ place state, invariant state → invariant (expand place state).2)
    (roots : List α) (visited : List κ) {state : σ} (hstate : invariant state) :
    invariant (breadthFirst key domain expand roots visited state).2 := by
  show invariant (visit key domain expand (discover key domain visited roots).1
    (discover key domain visited roots).2 state).2
  generalize (discover key domain visited roots).1 = queue
  generalize (discover key domain visited roots).2 = visited
  induction queue, visited, state using visit.induct key domain expand with
  | case1 visited state => rw [visit]; exact hstate
  | case2 visited state place waiting _ _ _ _ _ ih =>
    rw [visit]
    exact ih (hexpand place state hstate)

/-! ## Indexes -/

namespace Index

/-- An index has a rule, and what it holds of open texts is what they declare. -/
structure Declared (rule : IndexRule) (index : Index) : Prop where
  ruled : index.rule = rule
  recorded : index.textDeclarations.Recorded (Require.declarations rule.search.placeholder)

variable {rule : IndexRule} {index : Index}

/-- A new index holds nothing. -/
theorem declared_new (rule : IndexRule) : (new rule).Declared rule :=
  ⟨rfl, TextCache.recorded_new _ _⟩

namespace Declared

/-- Reading the functions of a file leaves the declarations alone. -/
theorem signaturesOf (h : index.Declared rule) (tree : FileTree) (path : Path) :
    (index.signaturesOf tree path).2.Declared rule :=
  ⟨h.ruled, h.recorded⟩

/-- Reading what a file requires leaves the declarations of open texts alone. -/
theorem neighbours (h : index.Declared rule) (tree : FileTree) (path : Path) :
    (index.neighbours tree path).2.Declared rule :=
  ⟨h.ruled, h.recorded⟩

/-- So does a search through the files. -/
theorem follow (h : index.Declared rule) (tree : FileTree) (roots avoided : List Path) :
    (index.follow tree roots avoided).2.Declared rule :=
  Reach.breadthFirst_keeps (fun path _ hindex => hindex.neighbours tree path) _ _ h

/-- So does reading the functions of some files. -/
theorem signaturesOfAll (h : index.Declared rule) (tree : FileTree) (paths : List Path) :
    (index.signaturesOfAll tree paths).2.Declared rule := by
  induction paths generalizing index with
  | nil => exact h
  | cons path rest ih => exact ih (h.signaturesOf tree path)

/-- Reading the functions of an open text leaves the declarations alone. -/
theorem textSignaturesOf (h : index.Declared rule) (text : Text) :
    (index.textSignaturesOf text).2.Declared rule :=
  ⟨h.ruled, h.recorded⟩

/-- The references of an open text lead where its declarations say. -/
theorem textDependencies_fst (h : index.Declared rule) (tree : FileTree) (path : Path)
    (text : Text) :
    (index.textDependencies tree path text).1 =
      Resolve.dependencies tree rule.search path
        (Require.declarations rule.search.placeholder text) := by
  obtain rfl := h.ruled
  rw [← h.recorded.get_fst text]
  rfl

/-- What an open text declares is added to what is held. -/
theorem textDependencies (h : index.Declared rule) (tree : FileTree) (path : Path) (text : Text) :
    (index.textDependencies tree path text).2.Declared rule := by
  obtain rfl := h.ruled
  exact ⟨rfl, h.recorded.get_snd text⟩

/-- Looking for all functions that an open text can use keeps the declarations right. -/
theorem textVisible (h : index.Declared rule) (tree : FileTree) (path : Path) (text : Text) :
    (index.textVisible tree path text).2.Declared rule :=
  (((h.textSignaturesOf text).textDependencies tree path text).follow tree _ _).signaturesOfAll
    tree _

/-- Forgetting a file leaves the declarations of open texts alone. -/
theorem invalidate (h : index.Declared rule) (path : Path) :
    (index.invalidate path).Declared rule :=
  ⟨h.ruled, h.recorded⟩

end Declared

end Index

/-! ## Sessions -/

namespace Session

/-- A session has these documents and settings, and what its index holds of open texts is what
they declare. -/
structure Declared (documents : List (Uri × OpenDocument)) (config : Config) (session : Session) :
    Prop where
  documented : session.documents = documents
  configured : session.config = config
  index : session.index.Declared config.indexRule

/-- The reports about a document, without regard to what a session has read. -/
def reportsOn (config : Config) (tree : FileTree) (uri : Uri) (document : OpenDocument) :
    List Diagnostic :=
  match config.diagnostics, uri.toPath? with
  | true, some path =>
    let rule := config.indexRule.search
    let found := Resolve.dependencies tree rule path
      (Require.declarations rule.placeholder document.text)
    found.unresolved.map (unresolved document.text config.severity)
  | _, _ => []

variable {documents : List (Uri × OpenDocument)} {config : Config} {session : Session}

/-- A new session has read nothing. -/
theorem declared_new (config : Config) : (new config).Declared [] config :=
  ⟨rfl, rfl, Index.declared_new _⟩

namespace Declared

/-- The same documents are open. -/
theorem document? (h : session.Declared documents config) (uri : Uri) :
    session.document? uri = documents.lookup uri :=
  congrArg (List.lookup uri) h.documented

/-- Another documentation makes no difference. -/
theorem withStore (h : session.Declared documents config) (store : Documentation.Store) :
    { session with store := store : Session }.Declared documents config :=
  ⟨h.documented, h.configured, h.index⟩

/-- Other documents make no difference to what was read. -/
theorem withDocuments (h : session.Declared documents config)
    (others : List (Uri × OpenDocument)) :
    { session with documents := others : Session }.Declared others config :=
  ⟨rfl, h.configured, h.index⟩

/-- New settings keep the index if it has their rule. -/
theorem configure (h : session.Declared documents config) (other : Config) :
    (session.configure other).Declared documents other := by
  refine ⟨h.documented, rfl, ?_⟩
  show (if session.rebuildsIndex other then Index.new other.indexRule
    else session.index).Declared other.indexRule
  split
  · exact Index.declared_new _
  · rename_i hkept
    have hrule : other.indexRule = session.index.rule := by simpa [rebuildsIndex] using hkept
    rw [hrule, h.index.ruled]
    exact h.index

/-- Forgetting files makes no difference. -/
theorem invalidate (h : session.Declared documents config) (uri : Uri) :
    (session.invalidate uri).Declared documents config := by
  unfold Session.invalidate
  split
  · exact ⟨h.documented, h.configured, h.index.invalidate _⟩
  · exact h

/-- Forgetting some files makes no difference. -/
theorem invalidateAll (h : session.Declared documents config) (uris : List Uri) :
    (uris.foldl Session.invalidate session).Declared documents config := by
  induction uris generalizing session with
  | nil => exact h
  | cons uri rest ih => exact ih (h.invalidate uri)

/-- Looking for functions keeps what is known of open texts right. -/
theorem functions (h : session.Declared documents config) (tree : FileTree) (uri : Uri)
    (text : Text) : (session.functions tree uri text).2.2.Declared documents config := by
  unfold Session.functions
  cases uri.toPath? with
  | none => exact ⟨h.documented, h.configured, h.index.textSignaturesOf text⟩
  | some path =>
    exact ⟨h.documented, h.configured, (h.index.textSignaturesOf text).textVisible tree path text⟩

/-- So does completion. -/
theorem completion (h : session.Declared documents config) (tree : FileTree) (uri : Uri)
    (position : Position) (reason : Trigger) :
    (session.completion tree uri position reason).2.Declared documents config := by
  unfold Session.completion
  cases session.document? uri with
  | none => exact h
  | some document => exact (h.functions tree uri document.text).withStore _

/-- So does a hint. -/
theorem signatureHelp (h : session.Declared documents config) (tree : FileTree) (uri : Uri)
    (position : Position) :
    (session.signatureHelp tree uri position).2.Declared documents config := by
  unfold Session.signatureHelp
  cases session.document? uri with
  | none => exact h
  | some document => exact (h.functions tree uri document.text).withStore _

/-- So does looking for the symbols of a document. -/
theorem symbolsOf (h : session.Declared documents config) (query : Text) (uri : Uri)
    (document : OpenDocument) :
    (session.symbolsOf query uri document).2.Declared documents config :=
  ⟨h.documented, h.configured, h.index.textSignaturesOf document.text⟩

/-- So does listing the symbols of a document. -/
theorem documentSymbols (h : session.Declared documents config) (uri : Uri) :
    (session.documentSymbols uri).2.Declared documents config := by
  unfold Session.documentSymbols
  cases session.document? uri with
  | none => exact h
  | some document => exact h.symbolsOf [] uri document

/-- So does listing the symbols of some documents. -/
theorem symbolsOfAll (h : session.Declared documents config) (query : Text)
    (entries : List (Uri × OpenDocument)) :
    (session.symbolsOfAll query entries).2.Declared documents config := by
  induction entries generalizing session with
  | nil => exact h
  | cons entry rest ih => exact ih (h.symbolsOf query entry.1 entry.2)

/-- Reporting keeps what is known of open texts right. -/
theorem diagnostics (h : session.Declared documents config) (tree : FileTree) (uri : Uri) :
    (session.diagnostics tree uri).2.Declared documents config := by
  unfold Session.diagnostics
  split
  · exact h
  · split
    · rename_i document path _ _
      exact ⟨h.documented, h.configured, h.index.textDependencies tree path document.text⟩
    · exact h

/-- The reports about an open document do not depend on what was read before. -/
theorem diagnostics_fst (h : session.Declared documents config) (tree : FileTree) {uri : Uri}
    {document : OpenDocument} (hopen : documents.lookup uri = some document) :
    (session.diagnostics tree uri).1 = reportsOn config tree uri document := by
  unfold Session.diagnostics reportsOn
  rw [h.document?, hopen, h.configured]
  cases config.diagnostics with
  | false => rfl
  | true =>
    cases uri.toPath? with
    | none => rfl
    | some path =>
      exact congrArg (fun found : Resolve.Dependencies =>
        found.unresolved.map (unresolved document.text config.severity))
        (h.index.textDependencies_fst tree path document.text)

end Declared

/-- A session knows its own documents and settings, and what it holds of open texts is right. -/
def KnowsItself (session : Session) : Prop := session.Declared session.documents session.config

/-- A session that knows some documents and settings knows its own. -/
theorem Declared.knowsItself (h : session.Declared documents config) : session.KnowsItself := by
  obtain ⟨rfl, rfl, hindex⟩ := h
  exact ⟨rfl, rfl, hindex⟩

/-- The reports depend on the files only through which there are. -/
theorem reportsOn_congr {before tree : FileTree}
    (hfiles : ∀ path, before.isFile path = tree.isFile path) (config : Config) (uri : Uri)
    (document : OpenDocument) :
    reportsOn config before uri document = reportsOn config tree uri document := by
  have hsame : before.isFile = tree.isFile := funext hfiles
  unfold reportsOn Resolve.dependencies Resolve.file?
  rw [hsame]

end Session

end LuaAssist

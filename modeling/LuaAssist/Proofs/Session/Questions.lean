import LuaAssist.Proofs.Session.Readings
import LuaAssist.Session.Answers

/-!
# Questions to a session

The questions of an editor are gathered into one type here, with one function that answers them.
Sessions with the same documents and settings and without wrong values answer all of them alike.
-/

namespace LuaAssist.Session

/-- What an editor asks about the open documents. -/
inductive Question where
  | completion (uri : Uri) (position : Position) (reason : Trigger)
  | signatureHelp (uri : Uri) (position : Position)
  | displayTokens (uri : Uri)
  | documentSymbols (uri : Uri)
  | workspaceSymbols (query : Text)
  | onTypeEdit (uri : Uri) (line : Nat) (typed : Text) (tabSize : Nat) (spaces : Bool)
  | diagnostics (uri : Uri)
  deriving DecidableEq, Repr

/-- What a session answers. -/
inductive Answer where
  | completion (items : Option Items)
  | signatureHelp (help : Option Help)
  | displayTokens (tokens : Option (List DisplayToken))
  | documentSymbols (symbols : Option (List Symbol))
  | workspaceSymbols (symbols : List Symbol)
  | onTypeEdit (edit : Option Document.Edit)
  | diagnostics (reports : List Diagnostic)
  deriving DecidableEq, Repr

/-- The answer to a question over a tree of files, with the session after it. -/
def answer (tree : FileTree) (question : Question) (session : Session) : Answer × Session :=
  match question with
  | .completion uri position reason =>
    let (items, session) := session.completion tree uri position reason
    (.completion items, session)
  | .signatureHelp uri position =>
    let (help, session) := session.signatureHelp tree uri position
    (.signatureHelp help, session)
  | .displayTokens uri => (.displayTokens (session.displayTokens uri), session)
  | .documentSymbols uri =>
    let (symbols, session) := session.documentSymbols uri
    (.documentSymbols symbols, session)
  | .workspaceSymbols query =>
    let (symbols, session) := session.workspaceSymbols query
    (.workspaceSymbols symbols, session)
  | .onTypeEdit uri line typed tabSize spaces =>
    (.onTypeEdit (session.onTypeEdit uri line typed tabSize spaces), session)
  | .diagnostics uri =>
    let (reports, session) := session.diagnostics tree uri
    (.diagnostics reports, session)

/-- A session has these documents and settings, its index and its documentation are those of the
settings, and none of the values that they hold is wrong. -/
structure Faithful (documents : List (Uri × OpenDocument)) (config : Config)
    (looks : List FileTree) (session : Session) : Prop where
  documented : session.documents = documents
  configured : session.config = config
  index : session.index.Faithful config.indexRule looks
  store : session.store.Faithful (config.documentation.map Path.parts) looks

variable {documents : List (Uri × OpenDocument)} {config : Config} {looks : List FileTree}
  {α : Type} {post : α → Prop}

/-- A computation over the index of a session. -/
theorem askAlike_index {ask : Index → α × Index}
    (hask : AskAlike (Index.Faithful config.indexRule looks) post ask) :
    AskAlike (Faithful documents config looks) post fun session =>
      ((ask session.index).1, { session with index := (ask session.index).2 }) := by
  intro s t hs ht
  obtain ⟨hvalue, hpost, hindex⟩ := hask _ _ hs.index ht.index
  exact ⟨hvalue, hpost, { hs with index := hindex }⟩

/-- A computation over the documentation of a session. -/
theorem askAlike_store {ask : Documentation.Store → α × Documentation.Store}
    (hask : AskAlike (Documentation.Store.Faithful (config.documentation.map Path.parts) looks)
      post ask) :
    AskAlike (Faithful documents config looks) post fun session =>
      ((ask session.store).1, { session with store := (ask session.store).2 }) := by
  intro s t hs ht
  obtain ⟨hvalue, hpost, hstore⟩ := hask _ _ hs.store ht.store
  exact ⟨hvalue, hpost, { hs with store := hstore }⟩

/-- A value that is computed from the settings. -/
theorem askAlike_config (view : Config → α) :
    AskAlike (Faithful documents config looks) (fun _ => True) fun session =>
      (view session.config, session) :=
  AskAlike.look (view config) trivial fun _ hfaithful => congrArg view hfaithful.configured

/-- The same documents are open. -/
theorem Faithful.document? {session : Session}
    (hfaithful : session.Faithful documents config looks) (uri : Uri) :
    session.document? uri = documents.lookup uri :=
  congrArg (List.lookup uri) hfaithful.documented

/-! ## Symbols and diagnostics -/

/-- The functions of a document that answer a query. -/
theorem askAlike_symbolsOf (query : Text) (uri : Uri) (document : OpenDocument) :
    AskAlike (Faithful documents config looks) (fun _ => True)
      (symbolsOf query uri document) :=
  (askAlike_index (Index.askAlike_textSignaturesOf document.text)).map fun own =>
    (FunctionSearch.search own query).map (symbol uri)

/-- The functions of some documents that answer a query. -/
theorem askAlike_symbolsOfAll (query : Text) (entries : List (Uri × OpenDocument)) :
    AskAlike (Faithful documents config looks) (fun _ => True)
      (symbolsOfAll query · entries) := by
  induction entries with
  | nil => exact AskAlike.pure trivial
  | cons entry rest ih =>
    exact (askAlike_symbolsOf query entry.1 entry.2).bind _ fun here _ => ih.map (here ++ ·)

/-- The functions of an open document. -/
theorem askAlike_documentSymbols (uri : Uri) :
    AskAlike (Faithful documents config looks) (fun _ => True) (documentSymbols uri) := by
  intro s t hs ht
  unfold documentSymbols
  rw [hs.document? uri, ht.document? uri]
  cases documents.lookup uri with
  | none => exact ⟨rfl, trivial, hs⟩
  | some document => exact (askAlike_symbolsOf [] uri document).map some s t hs ht

/-- The functions of all open documents that answer a query. -/
theorem askAlike_workspaceSymbols (query : Text) :
    AskAlike (Faithful documents config looks) (fun _ => True) (workspaceSymbols query) := by
  intro s t hs ht
  have horder : s.inOrder = t.inOrder := by
    unfold inOrder
    rw [hs.documented, ht.documented]
  unfold workspaceSymbols
  rw [horder]
  exact askAlike_symbolsOfAll query t.inOrder s t hs ht

/-- The reports about an open document. -/
theorem askAlike_diagnostics (tree : FileTree) (uri : Uri) :
    AskAlike (Faithful documents config looks) (fun _ => True) (diagnostics tree uri) := by
  intro s t hs ht
  obtain rfl := hs.configured
  unfold diagnostics
  rw [hs.document? uri, ht.document? uri, ht.configured]
  split
  · exact ⟨rfl, trivial, hs⟩
  · cases documents.lookup uri with
    | none => exact ⟨rfl, trivial, hs⟩
    | some document =>
      cases uri.toPath? with
      | none => exact ⟨rfl, trivial, hs⟩
      | some path =>
        exact (askAlike_index (Index.askAlike_textDependencies tree path document.text)).map
          (fun found => found.unresolved.map (unresolved document.text s.config.severity))
          s t hs ht

/-! ## Completion and hints -/

section Files

variable {tree : FileTree} (hlooks : ∀ look ∈ looks, look.Precedes tree) (htree : tree ∈ looks)
include hlooks htree

/-- The functions of an open document and those that it can use. -/
theorem askAlike_functions (uri : Uri) (text : Text) :
    AskAlike (Faithful documents config looks) (fun _ => True) fun session =>
      (((session.functions tree uri text).1, (session.functions tree uri text).2.1),
        (session.functions tree uri text).2.2) := by
  unfold functions
  cases uri.toPath? with
  | none =>
    refine askAlike_index ((Index.askAlike_textSignaturesOf text).bind
      (fun own index => ((own, own ++ index.builtins), index)) fun own _ => ?_)
    exact (Index.askAlike_builtins own).map fun visible => (own, visible)
  | some path =>
    refine askAlike_index ((Index.askAlike_textSignaturesOf text).bind (fun own index =>
      ((own, (index.textVisible tree path text).1), (index.textVisible tree path text).2))
      fun own _ => ?_)
    exact (Index.askAlike_textVisible hlooks htree path text).map fun visible => (own, visible)

/-- All that the documentation says. -/
theorem askAlike_documentation {directory : Option (List Path.Part)} :
    AskAlike (Documentation.Store.Faithful directory looks) (fun _ => True) fun store =>
      let (words, store) := store.words tree
      let (members, store) := store.members tree
      let (calls, store) := store.calls tree
      ((words, members, calls), store) := by
  have hwords : AskAlike (Documentation.Store.Faithful directory looks) (fun _ => True)
      (Documentation.Store.words tree) :=
    Documentation.Store.askAlike_words hlooks htree
  have hall := hwords.bind _ fun words _ =>
    (Documentation.Store.askAlike_members hlooks htree).bind _ fun members _ =>
      (Documentation.Store.askAlike_calls hlooks htree).map fun calls => (words, members, calls)
  exact hall

/-- The functions of an open document with what else is read of the documentation. -/
theorem askAlike_sources (documents : List (Uri × OpenDocument)) (config : Config)
    {ask : Documentation.Store → α × Documentation.Store}
    (hask : AskAlike (Documentation.Store.Faithful (config.documentation.map Path.parts) looks)
      (fun _ => True) ask) (uri : Uri) (text : Text) :
    AskAlike (Faithful documents config looks) (fun _ => True) fun session =>
      let after := (session.functions tree uri text).2.2
      (((session.functions tree uri text).1, (session.functions tree uri text).2.1,
        (ask after.store).1), { after with store := (ask after.store).2 }) := by
  refine (askAlike_functions hlooks htree uri text).bind (fun functions session =>
    ((functions.1, functions.2, (ask session.store).1),
      { session with store := (ask session.store).2 })) fun functions _ => ?_
  exact (askAlike_store hask).map fun value => (functions.1, functions.2, value)

/-- The hint at a position, from all that is read for it. -/
def helpOf (text : Text) (position : Position)
    (read : List Signature × List Signature × Documentation.CallTable) : Option Help :=
  let (_, visible, calls) := read
  (Hint.find? text (Document.offsetOf text position) visible calls).map fun found =>
    ⟨found.signatures.map helpLabel, found.active⟩

/-- The hint at a position. -/
theorem askAlike_signatureHelp (uri : Uri) (position : Position) :
    AskAlike (Faithful documents config looks) (fun _ => True)
      (signatureHelp tree uri position) := by
  intro s t hs ht
  unfold signatureHelp
  rw [hs.document? uri, ht.document? uri]
  cases documents.lookup uri with
  | none => exact ⟨rfl, trivial, hs⟩
  | some document =>
    have hsources := askAlike_sources hlooks htree documents config
      (Documentation.Store.askAlike_calls hlooks htree) uri document.text
    exact hsources.map (helpOf document.text position) s t hs ht

/-- The candidates at a position, from all that is read for them. -/
def itemsOf (text : Text) (position : Position) (reason : Trigger) (whenIdle : Bool)
    (read : List Signature × List Signature × List Text × Documentation.MemberTable ×
      Documentation.CallTable) : Option Items :=
  let (own, visible, words, members, calls) := read
  (Completion.complete? text (Document.offsetOf text position) reason whenIdle
    ⟨own, visible, words, members, calls⟩).map fun found =>
      ⟨whenIdle, itemsFrom found.place
        ⟨Document.positionOf text found.insertOffset, position⟩ 0 found.candidates⟩

/-- The candidates at a position. -/
theorem askAlike_completion (uri : Uri) (position : Position) (reason : Trigger) :
    AskAlike (Faithful documents config looks) (fun _ => True)
      (completion tree uri position reason) := by
  intro s t hs ht
  unfold completion
  rw [hs.document? uri, ht.document? uri]
  cases documents.lookup uri with
  | none => exact ⟨rfl, trivial, hs⟩
  | some document =>
    have hsources := askAlike_sources hlooks htree documents config
      (askAlike_documentation hlooks htree) uri document.text
    have hitems := hsources.bind _ fun read _ =>
      askAlike_config fun config => itemsOf document.text position reason config.whenIdle read
    obtain ⟨hvalue, hpost, hafter⟩ := hitems s t hs ht
    exact ⟨hvalue, hpost, hafter⟩

/-- Faithful sessions give the same answers, and stay faithful. -/
theorem askAlike_answer (question : Question) :
    AskAlike (Faithful documents config looks) (fun _ => True) (answer tree question) := by
  cases question with
  | completion uri position reason =>
    exact (askAlike_completion hlooks htree uri position reason).map Answer.completion
  | signatureHelp uri position =>
    exact (askAlike_signatureHelp hlooks htree uri position).map Answer.signatureHelp
  | displayTokens uri =>
    refine AskAlike.look (.displayTokens ((documents.lookup uri).map fun document =>
      distancesFrom 0 0 (placedTokens document.text))) trivial fun session hfaithful => ?_
    rw [displayTokens, hfaithful.document? uri]
  | documentSymbols uri => exact (askAlike_documentSymbols uri).map Answer.documentSymbols
  | workspaceSymbols query => exact (askAlike_workspaceSymbols query).map Answer.workspaceSymbols
  | onTypeEdit uri line typed tabSize spaces =>
    refine AskAlike.look (.onTypeEdit ((documents.lookup uri).bind fun document =>
      Indent.edit? document.text line typed
        ⟨config.indentSize % 0x100000000, tabSize, spaces⟩)) trivial fun session hfaithful => ?_
    rw [onTypeEdit, hfaithful.document? uri, hfaithful.configured]
    rfl
  | diagnostics uri => exact (askAlike_diagnostics tree uri).map Answer.diagnostics

end Files

end LuaAssist.Session

import LuaAssist.Proofs.Lookup
import LuaAssist.Proofs.Session.Declared
import LuaAssist.Server
import Mathlib.Data.List.Chain

/-!
# Published reports are up to date

An editor shows of every document what was published about it last. After every message this is
what the document deserves: the reports that asking would give, or none if the document is closed.
Files may come and go between messages, as long as the next message tells so.
-/

namespace LuaAssist.Server

/-! ## Publications -/

/-- Reports about a document as they are published. -/
structure Publication where
  uri : Uri
  reports : List Session.Diagnostic
  version : Option Int
  deriving DecidableEq

/-- The message of a publication. -/
def Publication.message (publication : Publication) : Json :=
  published publication.uri publication.reports publication.version

/-- The last publication about a document. -/
def latest? (uri : Uri) (sent : List Publication) : Option Publication :=
  (sent.filter fun publication => publication.uri = uri).getLast?

/-- What asking about an open document gives, ready to be published. -/
def current? (config : Config) (tree : FileTree) (documents : List (Uri × OpenDocument))
    (uri : Uri) : Option Publication :=
  (documents.lookup uri).map fun document =>
    ⟨uri, Session.reportsOn config tree uri document, document.version⟩

variable {config : Config} {tree : FileTree} {documents : List (Uri × OpenDocument)}
  {session : Session} {uri : Uri} {sent : List Publication}

/-- Later publications count more. -/
theorem latest?_append (uri : Uri) (sent more : List Publication) :
    latest? uri (sent ++ more) = (latest? uri more).or (latest? uri sent) := by
  unfold latest?
  rw [List.filter_append, List.getLast?_append]

/-- A publication is the last one about its document. -/
theorem latest?_singleton_self (publication : Publication) :
    latest? publication.uri [publication] = some publication := by
  simp [latest?]

/-- A publication is not about other documents. -/
theorem latest?_singleton_of_ne {publication : Publication} (hother : publication.uri ≠ uri) :
    latest? uri [publication] = none := by
  simp [latest?, hother]

/-- What is published about an open document is about it. -/
theorem uri_of_current? {publication : Publication}
    (hcurrent : current? config tree documents uri = some publication) : publication.uri = uri := by
  obtain ⟨document, _, rfl⟩ := Option.map_eq_some_iff.mp hcurrent
  rfl

/-- When the reports about some documents are published, each of them gets its own. -/
theorem latest?_filterMap_current? (uri : Uri) (uris : List Uri) :
    latest? uri (uris.filterMap (current? config tree documents)) =
      if uri ∈ uris then current? config tree documents uri else none := by
  induction uris with
  | nil => rfl
  | cons first rest ih =>
    have hsplit : (first :: rest).filterMap (current? config tree documents) =
        (current? config tree documents first).toList ++
          rest.filterMap (current? config tree documents) := by
      cases hfirst : current? config tree documents first <;> simp [hfirst]
    have hhere : latest? uri (current? config tree documents first).toList =
        if uri = first then current? config tree documents uri else none := by
      cases hfirst : current? config tree documents first with
      | none => split <;> simp_all [latest?]
      | some publication =>
        obtain rfl := uri_of_current? hfirst
        split
        · rename_i heq
          rw [heq, hfirst]
          exact latest?_singleton_self publication
        · rename_i hne
          exact latest?_singleton_of_ne (Ne.symm hne)
    rw [hsplit, latest?_append, ih, hhere]
    by_cases hfirst : uri = first
    · obtain rfl := hfirst
      rw [if_pos rfl, if_pos List.mem_cons_self]
      split
      · exact Option.or_self
      · exact Option.none_or
    · rw [if_neg hfirst, Option.or_none]
      simp [hfirst]

/-! ## Publishing -/

/-- The reports about a document that is open are published, and nothing about any other. -/
theorem publish_spec (h : session.Declared documents config) (tree : FileTree) (uri : Uri) :
    (publish tree uri session).1 =
        (current? config tree documents uri).toList.map Publication.message ∧
      (publish tree uri session).2.Declared documents config := by
  unfold publish current?
  rw [h.document?]
  cases hopen : documents.lookup uri with
  | none => exact ⟨rfl, h⟩
  | some document =>
    refine ⟨?_, h.diagnostics tree uri⟩
    show [published uri (session.diagnostics tree uri).1 document.version] = _
    rw [h.diagnostics_fst tree hopen]
    rfl

/-- The reports about some documents are published one after the other. -/
theorem publishEach_spec (h : session.Declared documents config) (tree : FileTree)
    (uris : List Uri) :
    (publishEach tree session uris).1 =
        (uris.filterMap (current? config tree documents)).map Publication.message ∧
      (publishEach tree session uris).2.Declared documents config := by
  induction uris generalizing session with
  | nil => exact ⟨rfl, h⟩
  | cons uri rest ih =>
    obtain ⟨hhere, hafter⟩ := publish_spec h tree uri
    obtain ⟨hrest, hfinal⟩ := ih hafter
    refine ⟨?_, hfinal⟩
    show (publish tree uri session).1 ++ (publishEach tree (publish tree uri session).2 rest).1 = _
    rw [hhere, hrest]
    cases hcurrent : current? config tree documents uri <;> simp [hcurrent]

/-- Whatever was published before, what is published last about a document is what asking gives, or
nothing is said of it any more. -/
structure UpToDate (config : Config) (tree : FileTree) (documents : List (Uri × OpenDocument))
    (sent : List Publication) : Prop where
  current : ∀ uri, (documents.lookup uri).isSome →
    latest? uri sent = current? config tree documents uri
  gone : ∀ uri, documents.lookup uri = none → ∀ last ∈ latest? uri sent, last = ⟨uri, [], none⟩

/-- As long as there are the same files, nothing gets out of date. -/
theorem UpToDate.congr {later : FileTree} (h : UpToDate config tree documents sent)
    (hfiles : ∀ path, tree.isFile path = later.isFile path) :
    UpToDate config later documents sent where
  current := fun uri hopen => by
    rw [h.current uri hopen]
    unfold current?
    simp only [Session.reportsOn_congr hfiles]
  gone := h.gone

/-- What is published depends on the documents that are looked up. -/
theorem UpToDate.of_lookup {others : List (Uri × OpenDocument)}
    (h : UpToDate config tree documents sent)
    (hlookup : ∀ uri, others.lookup uri = documents.lookup uri) :
    UpToDate config tree others sent where
  current := fun uri hopen => by
    unfold current?
    rw [hlookup uri] at hopen ⊢
    exact h.current uri hopen
  gone := fun uri hclosed => h.gone uri ((hlookup uri).symm.trans hclosed)

/-- After a change to one document, publishing about this document is enough. -/
theorem UpToDate.replaced {others : List (Uri × OpenDocument)} {publication : Publication}
    (h : UpToDate config tree documents sent)
    (hothers : ∀ other, other ≠ publication.uri → others.lookup other = documents.lookup other)
    (hthis : publication =
      (current? config tree others publication.uri).getD ⟨publication.uri, [], none⟩) :
    UpToDate config tree others (sent ++ [publication]) where
  current := fun uri hopen => by
    by_cases huri : publication.uri = uri
    · obtain rfl := huri
      rw [latest?_append, latest?_singleton_self, Option.some_or]
      obtain ⟨document, hdocument⟩ := Option.isSome_iff_exists.mp hopen
      rw [hthis]
      simp [current?, hdocument]
    · rw [latest?_append, latest?_singleton_of_ne huri, Option.none_or]
      unfold current?
      rw [hothers uri (Ne.symm huri)] at hopen ⊢
      exact h.current uri hopen
  gone := fun uri hclosed last hlast => by
    by_cases huri : publication.uri = uri
    · obtain rfl := huri
      rw [latest?_append, latest?_singleton_self, Option.some_or] at hlast
      rw [← Option.mem_some_iff.mp hlast, hthis]
      simp [current?, hclosed]
    · rw [latest?_append, latest?_singleton_of_ne huri, Option.none_or] at hlast
      rw [hothers uri (Ne.symm huri)] at hclosed
      exact h.gone uri hclosed last hlast

/-- Publishing about all open documents brings everything up to date, whatever has changed. -/
theorem UpToDate.all {otherConfig : Config} {otherTree : FileTree} {uris : List Uri}
    (h : UpToDate otherConfig otherTree documents sent)
    (huris : ∀ uri, (documents.lookup uri).isSome → uri ∈ uris) :
    UpToDate config tree documents (sent ++ uris.filterMap (current? config tree documents)) where
  current := fun uri hopen => by
    obtain ⟨document, hdocument⟩ := Option.isSome_iff_exists.mp hopen
    rw [latest?_append, latest?_filterMap_current?, if_pos (huris uri hopen)]
    simp [current?, hdocument]
  gone := fun uri hclosed last hlast => by
    have hnone : latest? uri (uris.filterMap (current? config tree documents)) = none := by
      rw [latest?_filterMap_current?]
      split
      · simp [current?, hclosed]
      · rfl
    rw [latest?_append, hnone, Option.none_or] at hlast
    exact h.gone uri hclosed last hlast

/-! ## Documents -/

/-- What is looked up after one document was altered. -/
theorem lookup_alter (session : Session) (uri : Uri) (change : OpenDocument → OpenDocument)
    (other : Uri) :
    (session.alter uri change).documents.lookup other =
      if other = uri then (session.documents.lookup other).map change
      else session.documents.lookup other := by
  unfold Session.alter
  induction session.documents with
  | nil => simp
  | cons entry rest ih =>
    obtain ⟨known, document⟩ := entry
    rw [List.map_cons, List.lookup_cons, List.lookup_cons, ih]
    by_cases hknown : other = known
    · obtain rfl := hknown
      simp only [beq_self_eq_true]
      split <;> simp_all
    · simp only [beq_false_of_ne hknown]

/-- What is looked up after one document was closed. -/
theorem lookup_closeDocument (session : Session) (uri other : Uri) :
    (session.closeDocument uri).documents.lookup other =
      if other = uri then none else session.documents.lookup other :=
  lookup_filter_ne session.documents uri other

/-- At most one document of a session differs from the given ones, and it has not been closed. -/
structure AlteredAt (uri : Uri) (documents : List (Uri × OpenDocument)) (config : Config)
    (session : Session) : Prop where
  declared : session.Declared session.documents config
  others : ∀ other, other ≠ uri → session.documents.lookup other = documents.lookup other
  notClosed : session.documents.lookup uri = none → documents.lookup uri = none

/-- A document is opened. -/
theorem alteredAt_openDocument (h : session.Declared documents config) (uri : Uri) (text : Text)
    (version : Option Int) :
    AlteredAt uri documents config (session.openDocument uri text version) where
  declared := h.withDocuments _
  others := fun other hother => by
    have hopened : (session.openDocument uri text version).documents =
        (uri, ⟨text, version⟩) :: (session.closeDocument uri).documents := rfl
    rw [hopened, lookup_cons_eq_ite, if_neg hother, lookup_closeDocument, if_neg hother,
      h.documented]
  notClosed := fun hnone => by simp [Session.openDocument] at hnone

/-- One more change to the same document. -/
theorem AlteredAt.alter (h : AlteredAt uri documents config session)
    (change : OpenDocument → OpenDocument) :
    AlteredAt uri documents config (session.alter uri change) where
  declared := h.declared.withDocuments _
  others := fun other hother => by
    rw [lookup_alter, if_neg hother]
    exact h.others other hother
  notClosed := fun hnone => by
    rw [lookup_alter, if_pos rfl] at hnone
    exact h.notClosed (Option.map_eq_none_iff.mp hnone)

/-- Any number of changes to the same document. -/
theorem AlteredAt.applyChanges (h : AlteredAt uri documents config session)
    (changes : List Document.Change) :
    AlteredAt uri documents config
      (changes.foldl (fun session change => session.applyChange uri change) session) := by
  induction changes generalizing session with
  | nil => exact h
  | cons change rest ih =>
    exact ih (h.alter fun document =>
      { document with text := Document.apply document.text change })

/-! ## Notifications -/

/-- What a session has read is right, and everything that was published is up to date. -/
structure Shows (tree : FileTree) (sent : List Publication) (session : Session) : Prop where
  declared : session.KnowsItself
  upToDate : UpToDate session.config tree session.documents sent

/-- The same of a session after a step, with what the server sends in it. -/
def Leaves (tree : FileTree) (sent : List Publication) (step : List Json × Session) : Prop :=
  ∃ more : List Publication, step.1 = more.map Publication.message ∧
    Shows tree (sent ++ more) step.2

/-- A session that shows documents and settings as they are. -/
theorem shows_of_declared (h : session.Declared documents config)
    (hsent : UpToDate config tree documents sent) : Shows tree sent session := by
  obtain ⟨rfl, rfl, -⟩ := id h
  exact ⟨h.knowsItself, hsent⟩

/-- Without open documents neither the settings nor the files matter. -/
theorem Shows.of_documents_eq_nil {otherTree : FileTree} (h : Shows otherTree sent session)
    (hnone : session.documents = []) (config : Config) :
    session.Declared [] session.config ∧ UpToDate config tree [] sent := by
  rw [← hnone]
  refine ⟨h.declared, ?_⟩
  have hsent := h.upToDate
  rw [hnone] at hsent ⊢
  exact ⟨fun _ hopen => (nomatch hopen), hsent.gone⟩

/-- A step in which nothing is sent. -/
theorem Shows.leaves (h : Shows tree sent session) : Leaves tree sent ([], session) :=
  ⟨[], rfl, by rwa [List.append_nil]⟩

/-- The reports about all open documents are published, whatever has changed. -/
theorem leaves_publishAll {otherConfig : Config} {otherTree : FileTree}
    (h : session.Declared documents config) (hsent : UpToDate otherConfig otherTree documents sent)
    (tree : FileTree) : Leaves tree sent (publishAll tree session) := by
  obtain ⟨hmessages, hafter⟩ := publishEach_spec h tree (session.inOrder.map Prod.fst)
  refine ⟨_, hmessages, shows_of_declared hafter (hsent.all fun uri hopen => ?_)⟩
  obtain ⟨document, hdocument⟩ := Option.isSome_iff_exists.mp hopen
  obtain ⟨front, behind, heq, _⟩ := List.lookup_eq_some_iff.mp hdocument
  have hordered : (uri, document) ∈ session.inOrder := by
    unfold Session.inOrder
    rw [List.mem_mergeSort, h.documented, heq]
    simp
  exact List.mem_map_of_mem hordered

/-- Publishing about the one document that was altered is enough. -/
theorem AlteredAt.leaves_publish (h : AlteredAt uri documents config session)
    (hsent : UpToDate config tree documents sent) :
    Leaves tree sent (publish tree uri session) := by
  obtain ⟨hmessages, hafter⟩ := publish_spec h.declared tree uri
  refine ⟨_, hmessages, shows_of_declared hafter ?_⟩
  cases hcurrent : current? config tree session.documents uri with
  | none =>
    -- The document was not open and is not open now, so nothing is different.
    have hclosed : session.documents.lookup uri = none := Option.map_eq_none_iff.mp hcurrent
    rw [Option.toList_none, List.append_nil]
    refine hsent.of_lookup fun other => ?_
    by_cases hother : other = uri
    · rw [hother, hclosed, h.notClosed hclosed]
    · exact h.others other hother
  | some publication =>
    obtain rfl := uri_of_current? hcurrent
    refine hsent.replaced h.others ?_
    rw [hcurrent]
    rfl

/-- A document is closed, and nothing is said of it any more. -/
theorem Shows.leaves_close (h : Shows tree sent session) (uri : Uri) :
    Leaves tree sent ([published uri [] none], session.closeDocument uri) := by
  refine ⟨[⟨uri, [], none⟩], rfl, h.declared.withDocuments _,
    h.upToDate.replaced (fun other hother => ?_) ?_⟩
  · rw [lookup_closeDocument, if_neg hother]
  · unfold current?
    rw [lookup_closeDocument, if_pos rfl]
    rfl

/-- When files have changed, everything is published again. -/
theorem leaves_watched {otherTree : FileTree} (h : Shows otherTree sent session) (tree : FileTree)
    (uris : List Uri) :
    Leaves tree sent (publishAll tree (uris.foldl Session.invalidate session)) :=
  leaves_publishAll (h.declared.invalidateAll uris) h.upToDate tree

/-- Every notification leaves everything up to date. -/
theorem Shows.leaves_notice (h : Shows tree sent session) (method : Text) (parameters : Json) :
    Leaves tree sent (notice tree method parameters session) := by
  unfold notice
  split
  · split
    · exact h.leaves
    · exact (alteredAt_openDocument h.declared _ _ _).leaves_publish h.upToDate
  split
  · split
    · exact h.leaves
    · rename_i changed _
      have hunaltered : AlteredAt changed.uri session.documents session.config session :=
        ⟨h.declared, fun _ _ => rfl, id⟩
      exact ((hunaltered.applyChanges changed.changes).alter _).leaves_publish h.upToDate
  split
  · split
    · exact h.leaves
    · exact h.leaves_close _
  split
  · split
    · exact h.leaves
    · exact leaves_publishAll (h.declared.configure _) h.upToDate tree
  · split
    · exact h.leaves
    · exact leaves_watched h tree _

/-! ## Messages -/

/-- A request that can be read is answered, which keeps what is known of open texts right. -/
theorem declared_reading {α : Type} {read : Json → Option α} {answer : α → Json × Session}
    (h : session.Declared documents config)
    (hanswer : ∀ request, (answer request).2.Declared documents config) (parameters : Json) :
    (reading read parameters session answer).2.Declared documents config := by
  unfold reading
  split
  · exact h
  · exact hanswer _

/-- No request makes wrong what is known of open texts. -/
theorem declared_answer (h : session.Declared documents config) (tree : FileTree)
    (method : Text) (parameters : Json) :
    (answer tree method parameters session).2.Declared documents config := by
  unfold answer
  split
  · exact declared_reading h (fun _ => h.completion tree _ _ _) parameters
  split
  · exact declared_reading h (fun _ => h.signatureHelp tree _ _) parameters
  split
  · exact declared_reading h (fun _ => h) parameters
  split
  · exact declared_reading h (fun _ => h.documentSymbols _) parameters
  split
  · exact declared_reading h (fun query => h.symbolsOfAll query _) parameters
  · exact declared_reading h (fun _ => h) parameters

/-- A server that serves shows everything as it is; one that waits has nothing to show. -/
structure Current (tree : FileTree) (sent : List Publication) (server : Server) : Prop where
  shows : Shows tree sent server.session
  running : server.phase = .serving ∨ server.phase = .waiting ∧ server.session.documents = []

/-- The same of a server after a message, with what it sends besides the answer. -/
def Sends (tree : FileTree) (sent : List Publication) (step : Option Reply × Server) : Prop :=
  ∃ more : List Publication,
    (step.1.map Reply.notifications).getD [] = more.map Publication.message ∧
      Current tree (sent ++ more) step.2

variable {server : Server}

/-- A message that changes nothing. -/
theorem Current.sends_respond (h : Current tree sent server) (message : Message)
    (value : Except Refusal Json) : Sends tree sent (some (respond message value), server) :=
  ⟨[], rfl, by rwa [List.append_nil]⟩

/-- A message without any effect. -/
theorem Current.sends_silence (h : Current tree sent server) :
    Sends tree sent (some silence, server) :=
  ⟨[], rfl, by rwa [List.append_nil]⟩

/-- The first request sets the settings, but no document is open yet. -/
theorem Current.sends_start (h : Current tree sent server) (message : Message) :
    Sends tree sent (some (start message server).1, (start message server).2) := by
  unfold start
  split
  · exact h.sends_respond _ _
  split
  · exact h.sends_silence
  split
  · exact h.sends_respond _ _
  · rename_i hwaiting _ options _
    obtain ⟨_, hnone⟩ := h.running.resolve_left fun hserving => by simp_all
    refine ⟨[], rfl, ?_, Or.inl rfl⟩
    rw [List.append_nil]
    cases options with
    | none => exact h.shows
    | some settings =>
      obtain ⟨hdeclared, hsent⟩ :=
        h.shows.of_documents_eq_nil hnone (server.session.config.update settings)
      exact shows_of_declared (hdeclared.configure _) hsent

/-- A message that is only taken while the server serves. -/
theorem Current.sends_serve (h : Current tree sent server) (message : Message) (method : Method) :
    Sends tree sent
      (some (serve tree message method server).1, (serve tree message method server).2) := by
  unfold serve
  split
  · exact h.sends_respond _ _
  · rename_i hphase
    have hserving : server.phase = .serving := by simpa using hphase
    split
    · split
      · exact h.sends_respond _ _
      · refine ⟨[], rfl, ?_, Or.inl hserving⟩
        rw [List.append_nil]
        exact shows_of_declared (declared_answer h.shows.declared tree _ _) h.shows.upToDate
    · exact h.sends_respond _ _
    · split
      · exact h.sends_silence
      · obtain ⟨more, hmessages, hshows⟩ := h.shows.leaves_notice _ _
        exact ⟨more, hmessages, hshows, Or.inl hserving⟩
    · exact h.sends_respond _ _
    · exact h.sends_silence

/-- The server goes on. -/
def GoesOn (message : Message) : Prop :=
  Method.ofName message.method ≠ .shutdown ∧ Method.ofName message.method ≠ .exit

/-- As long as the same files are there, every message leaves everything up to date. -/
theorem Current.sends_handle (h : Current tree sent server) {message : Message}
    (hon : GoesOn message) : Sends tree sent (handle tree message server) := by
  unfold handle
  split
  · rename_i hended
    rcases h.running with hserving | ⟨hwaiting, _⟩ <;> simp_all
  · split
    · exact h.sends_start message
    · exact absurd ‹_› hon.1
    · exact absurd ‹_› hon.2
    · exact h.sends_respond _ _
    · exact h.sends_silence
    · exact h.sends_respond _ _
    · exact h.sends_serve message _

/-- A message that tells of files that have changed. -/
def TellsOfFiles (message : Message) : Prop :=
  message.method = "workspace/didChangeWatchedFiles".toList ∧ message.id = none ∧
    (message.parameters.bind Protocol.watched?).isSome

/-- A message with the files as they are when it comes. -/
structure Arrival where
  tree : FileTree
  message : Message

/-- Between two messages no regular file comes or goes, unless the second one tells so. -/
def Announced (earlier later : Arrival) : Prop :=
  (∀ path, earlier.tree.isFile path = later.tree.isFile path) ∨ TellsOfFiles later.message

/-- The name under which changed files are told. -/
def watchedMethod : Text := "workspace/didChangeWatchedFiles".toList

/-- When it is told so, files may have come and gone. -/
theorem Current.sends_told {otherTree : FileTree} (h : Current otherTree sent server)
    {message : Message} (htold : TellsOfFiles message) (hserving : server.phase = .serving)
    (tree : FileTree) : Sends tree sent (handle tree message server) := by
  obtain ⟨method, id, parameters⟩ := message
  obtain ⟨hmethod, hid, hwatched⟩ := htold
  obtain ⟨uris, huris⟩ := Option.isSome_iff_exists.mp hwatched
  obtain ⟨value, hvalue, hread⟩ := Option.bind_eq_some_iff.mp huris
  dsimp only at hmethod hid hvalue
  subst hmethod hid hvalue
  have hnotice : notice tree watchedMethod value server.session =
      publishAll tree (uris.foldl Session.invalidate server.session) := by
    unfold notice
    rw [if_neg (by decide), if_neg (by decide), if_neg (by decide), if_neg (by decide), hread]
  have hname : Method.ofName watchedMethod = .notification watchedMethod := by decide
  have hhandle : handle tree ⟨watchedMethod, none, some value⟩ server =
      (some ⟨none, (notice tree watchedMethod value server.session).1⟩,
        { server with session := (notice tree watchedMethod value server.session).2 }) := by
    simp [handle, hserving, hname, serve]
  obtain ⟨more, hmessages, hshows⟩ := leaves_watched h.shows tree uris
  rw [← hnotice] at hmessages hshows
  show Sends tree sent (handle tree ⟨watchedMethod, none, some value⟩ server)
  rw [hhandle]
  exact ⟨more, hmessages, hshows, Or.inl hserving⟩

/-! ## Runs -/

/-- The server after some messages, with all that it has sent without being asked. -/
def take : List Arrival → Server → List Json × Server
  | [], server => ([], server)
  | arrival :: rest, server =>
    let (reply, server) := handle arrival.tree arrival.message server
    let (later, final) := take rest server
    ((reply.map Reply.notifications).getD [] ++ later, final)

/-- Whether the files have changed or not, the next message leaves everything up to date. -/
theorem Current.sends_announced {earlier later : Arrival} (h : Current earlier.tree sent server)
    (hannounced : Announced earlier later) (hon : GoesOn later.message) :
    Sends later.tree sent (handle later.tree later.message server) := by
  rcases h.running with hserving | ⟨hwaiting, hnone⟩
  · rcases hannounced with hfiles | htold
    · have hlater : Current later.tree sent server :=
        ⟨⟨h.shows.declared, h.shows.upToDate.congr hfiles⟩, h.running⟩
      exact hlater.sends_handle hon
    · exact h.sends_told htold hserving later.tree
  · obtain ⟨hdeclared, hsent⟩ := h.shows.of_documents_eq_nil hnone server.session.config
    have hlater : Current later.tree sent server := ⟨shows_of_declared hdeclared hsent, h.running⟩
    exact hlater.sends_handle hon

/-- Something was published about a document that is open, and stays so. -/
theorem Current.latest?_isSome (h : Current tree sent server)
    (hopen : (server.session.document? uri).isSome) (more : List Publication) :
    (latest? uri (sent ++ more)).isSome := by
  obtain ⟨document, hdocument⟩ := Option.isSome_iff_exists.mp hopen
  have hlookup : server.session.documents.lookup uri = some document := hdocument
  rw [latest?_append, h.shows.upToDate.current uri hopen]
  unfold current?
  rw [hlookup]
  cases latest? uri more <;> rfl

/-- A run keeps everything up to date, and something was published about every document that was
open in between. -/
theorem Current.take {earlier : Arrival} (h : Current earlier.tree sent server)
    {arrivals : List Arrival} (hannounced : List.IsChain Announced (earlier :: arrivals))
    (hon : ∀ arrival ∈ arrivals, GoesOn arrival.message) :
    ∃ more : List Publication, (take arrivals server).1 = more.map Publication.message ∧
      Current ((earlier :: arrivals).getLast (List.cons_ne_nil _ _)).tree (sent ++ more)
        (Server.take arrivals server).2 ∧
      ∀ front uri, front <+: arrivals →
        ((Server.take front server).2.session.document? uri).isSome →
          (latest? uri (sent ++ more)).isSome := by
  induction arrivals generalizing earlier sent server with
  | nil =>
    refine ⟨[], rfl, by rwa [List.append_nil], fun front uri hfront hopen => ?_⟩
    obtain rfl := List.prefix_nil.mp hfront
    exact h.latest?_isSome hopen []
  | cons arrival rest ih =>
    obtain ⟨hfirst, hrest⟩ := List.isChain_cons_cons.mp hannounced
    obtain ⟨here, hhere, hafter⟩ := h.sends_announced hfirst (hon arrival List.mem_cons_self)
    obtain ⟨later, hlater, hfinal, hopened⟩ := ih hafter hrest fun other hmem =>
      hon other (List.mem_cons_of_mem _ hmem)
    refine ⟨here ++ later, ?_, ?_, fun front uri hfront hopen => ?_⟩
    · rw [List.map_append, ← hhere, ← hlater]
      rfl
    · rw [← List.append_assoc]
      exact hfinal
    · cases front with
      | nil => exact h.latest?_isSome hopen _
      | cons first front =>
        obtain ⟨rfl, hshorter⟩ := List.cons_prefix_cons.mp hfront
        rw [← List.append_assoc]
        exact hopened front uri hshorter hopen

end LuaAssist.Server

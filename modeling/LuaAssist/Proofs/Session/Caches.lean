import LuaAssist.Proofs.Session.Questions

/-!
# Caches do not show

A session reads files when it is asked, and keeps what it has read. Whatever has happened to it,
and whatever has happened to the files between the questions, it answers like a session that is
new, as long as a file with another content than before has been written since.
-/

namespace LuaAssist.Session

/-! ## Runs -/

/-- What happens to a session. A question comes with the files as they are at its time; between two
questions files may be written, deleted and made in any way. -/
inductive Event where
  | opened (uri : Uri) (text : Text) (version : Option Int)
  | changed (uri : Uri) (change : Document.Change)
  | numbered (uri : Uri) (version : Int)
  | closed (uri : Uri)
  | configured (config : Config)
  | invalidated (uri : Uri)
  | asked (tree : FileTree) (question : Question)

/-- The session after an event. -/
def after (session : Session) : Event → Session
  | .opened uri text version => session.openDocument uri text version
  | .changed uri change => session.applyChange uri change
  | .numbered uri version => session.setVersion uri version
  | .closed uri => session.closeDocument uri
  | .configured config => session.configure config
  | .invalidated uri => session.invalidate uri
  | .asked tree question => (session.answer tree question).2

/-- The files at which an event looks. -/
def Event.look? : Event → Option FileTree
  | .asked tree _ => some tree
  | _ => none

/-- The session after some events, from the start on. -/
def run (config : Config) (events : List Event) : Session := events.foldl after (new config)

/-- A new session with the same settings, in which the same documents have been opened. -/
def reopened (session : Session) : Session :=
  session.documents.foldr
    (fun (uri, document) opened => opened.openDocument uri document.text document.version)
    (new session.config)

/-! ## What events keep -/

/-- A session is faithful to its own documents and settings, and no document is open twice. -/
structure Sound (looks : List FileTree) (session : Session) : Prop where
  faithful : session.Faithful session.documents session.config looks
  once : (session.documents.map Prod.fst).Nodup

variable {looks : List FileTree} {session : Session}

/-- A new session is sound. -/
theorem sound_new (config : Config) (looks : List FileTree) : (new config).Sound looks where
  faithful := ⟨rfl, rfl, Index.faithful_new _ _, Documentation.Store.faithful_new _ _⟩
  once := List.nodup_nil

/-- Documents do not matter for what has been read. -/
theorem Sound.withDocuments (hsound : session.Sound looks)
    {documents : List (Uri × OpenDocument)} (honce : (documents.map Prod.fst).Nodup) :
    { session with documents := documents : Session }.Sound looks where
  faithful := { hsound.faithful with documented := rfl }
  once := honce

/-- An altered document keeps its address. -/
theorem Sound.alter (hsound : session.Sound looks) (uri : Uri)
    (change : OpenDocument → OpenDocument) : (session.alter uri change).Sound looks := by
  refine hsound.withDocuments ?_
  rw [List.map_map]
  exact hsound.once

/-- A document that is closed was open once. -/
theorem Sound.closeDocument (hsound : session.Sound looks) (uri : Uri) :
    (session.closeDocument uri).Sound looks :=
  hsound.withDocuments (hsound.once.sublist (List.filter_sublist.map _))

/-- A document that is opened is not open elsewhere. -/
theorem Sound.openDocument (hsound : session.Sound looks) (uri : Uri) (text : Text)
    (version : Option Int) : (session.openDocument uri text version).Sound looks := by
  refine hsound.withDocuments (List.nodup_cons.mpr ⟨fun hmem => ?_, ?_⟩)
  · obtain ⟨entry, hentry, heq⟩ := List.mem_map.mp hmem
    have hother := (List.mem_filter.mp hentry).2
    simp [heq] at hother
  · exact hsound.once.sublist (List.filter_sublist.map _)

/-- New settings keep what was read as far as it does not depend on them. -/
theorem Sound.configure (hsound : session.Sound looks) (config : Config) :
    (session.configure config).Sound looks where
  once := hsound.once
  faithful := by
    have hindex := hsound.faithful.index
    have hstore := hsound.faithful.store
    refine ⟨rfl, rfl, ?_, ?_⟩
    · show (if session.rebuildsIndex config then Index.new config.indexRule
        else session.index).Faithful config.indexRule looks
      split
      · exact Index.faithful_new _ _
      · rename_i hkept
        have hrule : config.indexRule = session.index.rule := by simpa [rebuildsIndex] using hkept
        rw [hrule, hindex.ruled]
        exact hindex
    · show (if session.rebuildsStore config then Documentation.Store.new config.documentation
        else session.store).Faithful (config.documentation.map Path.parts) looks
      split
      · exact Documentation.Store.faithful_new _ _
      · rename_i hkept
        have hdirectory : config.documentation.map Path.parts =
            session.config.documentation.map Path.parts := by
          simpa [rebuildsStore] using hkept
        rw [hdirectory]
        exact hstore

/-- What is forgotten is read again. -/
theorem Sound.invalidate (hsound : session.Sound looks) (uri : Uri) :
    (session.invalidate uri).Sound looks := by
  unfold Session.invalidate
  split
  · exact { hsound with faithful :=
      { hsound.faithful with index := hsound.faithful.index.invalidate _ } }
  · exact hsound

/-- More looks make no value wrong. -/
theorem Sound.mono {more : List FileTree} (hsound : session.Sound looks) (hmore : looks ⊆ more) :
    session.Sound more where
  once := hsound.once
  faithful := { hsound.faithful with
    index := hsound.faithful.index.mono hmore
    store := hsound.faithful.store.mono hmore }

/-- What is read for an answer is right. -/
theorem Sound.answer (hsound : session.Sound looks) {tree : FileTree}
    (hlooks : ∀ look ∈ looks, look.Precedes tree) (htree : tree ∈ looks) (question : Question) :
    (session.answer tree question).2.Sound looks := by
  obtain ⟨_, _, hafter⟩ :=
    askAlike_answer hlooks htree question session session hsound.faithful hsound.faithful
  refine ⟨?_, ?_⟩
  · rw [hafter.documented, hafter.configured]
    exact hafter
  · rw [hafter.documented]
    exact hsound.once

/-- Every event keeps a session sound. -/
theorem Sound.after (hsound : session.Sound looks) (event : Event)
    (hlooks : (looks ++ event.look?.toList).Pairwise FileTree.Precedes) :
    (session.after event).Sound (looks ++ event.look?.toList) := by
  have hmore := hsound.mono (List.subset_append_left looks event.look?.toList)
  cases event with
  | opened uri text version => exact hmore.openDocument uri text version
  | changed uri change =>
    exact hmore.alter uri fun document =>
      { document with text := Document.apply document.text change }
  | numbered uri version =>
    exact hmore.alter uri fun document => { document with version := some version }
  | closed uri => exact hmore.closeDocument uri
  | configured config => exact hmore.configure config
  | invalidated uri => exact hmore.invalidate uri
  | asked tree question =>
    refine hmore.answer (fun look hlook => ?_) (by simp [Event.look?]) question
    rcases List.mem_append.mp hlook with hlook | hlook
    · exact (List.pairwise_append.mp hlooks).2.2 look hlook tree (by simp [Event.look?])
    · obtain rfl : look = tree := by simpa [Event.look?] using hlook
      exact look.precedes_self

/-- Every run keeps a session sound. -/
theorem Sound.foldl_after (events : List Event) (hsound : session.Sound looks)
    (hlooks : (looks ++ events.filterMap Event.look?).Pairwise FileTree.Precedes) :
    (events.foldl Session.after session).Sound (looks ++ events.filterMap Event.look?) := by
  induction events generalizing session looks with
  | nil => simpa using hsound
  | cons event events ih =>
    have hsplit : looks ++ (event :: events).filterMap Event.look? =
        looks ++ event.look?.toList ++ events.filterMap Event.look? := by
      cases hlook : event.look? <;> simp [hlook]
    rw [hsplit] at hlooks ⊢
    exact ih (hsound.after event (List.pairwise_append.mp hlooks).1) hlooks

/-- A document that is not open yet is put in front. -/
theorem openDocument_of_new {uri : Uri} (hnew : uri ∉ session.documents.map Prod.fst)
    (text : Text) (version : Option Int) :
    session.openDocument uri text version =
      { session with documents := (uri, ⟨text, version⟩) :: session.documents } := by
  have hkeep : session.documents.filter (fun (other, _) => other ≠ uri) = session.documents := by
    refine List.filter_eq_self.mpr fun entry hmem => ?_
    have hother : entry.1 ≠ uri := by
      rintro rfl
      exact hnew (List.mem_map_of_mem hmem)
    simpa using hother
  unfold openDocument
  rw [hkeep]

/-- A session in which the same documents have been opened is faithful to them. -/
theorem Sound.reopened (hsound : session.Sound looks) :
    session.reopened.Faithful session.documents session.config looks := by
  -- Each document is new among those that were opened before it, and comes in front of them.
  have hopened (documents : List (Uri × OpenDocument))
      (honce : (documents.map Prod.fst).Nodup) :
      documents.foldr (fun (uri, document) opened =>
          opened.openDocument uri document.text document.version) (new session.config) =
        { new session.config with documents := documents } := by
    induction documents with
    | nil => rfl
    | cons entry documents ih =>
      obtain ⟨uri, document⟩ := entry
      obtain ⟨hnew, honce⟩ := List.nodup_cons.mp honce
      rw [List.foldr_cons, ih honce]
      exact openDocument_of_new hnew document.text document.version
  unfold Session.reopened
  rw [hopened _ hsound.once]
  exact ⟨rfl, rfl, Index.faithful_new _ _, Documentation.Store.faithful_new _ _⟩

/-! ## Answers -/

/-- At every moment of a run each question has the answer that a new session with the same settings
and documents gives over the same files, if every file that has another content than at an earlier
question was written no earlier than that question was asked. -/
theorem answer_run_eq_reopened (config : Config) (events : List Event) (tree : FileTree)
    (question : Question)
    (hlooks : (events.filterMap Event.look? ++ [tree]).Pairwise FileTree.Precedes) :
    ((run config events).answer tree question).1 =
      ((run config events).reopened.answer tree question).1 := by
  have hevents := (List.pairwise_append.mp hlooks).1
  have hsound : (run config events).Sound (events.filterMap Event.look?) :=
    (sound_new config []).foldl_after events hevents
  have hmore := hsound.mono (List.subset_append_left _ [tree])
  have hprecedes : ∀ look ∈ events.filterMap Event.look? ++ [tree], look.Precedes tree := by
    intro look hlook
    rcases List.mem_append.mp hlook with hlook | hlook
    · exact (List.pairwise_append.mp hlooks).2.2 look hlook tree (List.mem_singleton_self tree)
    · rw [List.mem_singleton.mp hlook]
      exact tree.precedes_self
  exact (askAlike_answer hprecedes (by simp) question _ _ hmore.faithful hmore.reopened).1

/-! ## Times that are set back -/

/-- Files as they follow each other: where there was another content or none before, the file is
written no earlier than all looks so far. -/
def ChangesAreLater (looks : List FileTree) (before next : FileTree) : Prop :=
  ∀ place, ∀ file ∈ next.fileAt? place,
    (before.fileAt? place).map File.bytes = some file.bytes ∨
      ∀ look ∈ looks, look.clock ≤ file.modified

/-- Files with nothing but a documentation file, which knows one function and its argument. -/
def callsTree (argument : UInt8) (modified clock : Int) : FileTree :=
  ⟨[(["docs".toList, "calls".toList], ⟨[102, 124, 124, argument], modified⟩)], [["docs".toList]],
    clock⟩

/-- The address of a document that is not a file. -/
def draft : Uri := ⟨"untitled".toList, none, none, .opaqueText "main".toList, none, none⟩

/-- The question for a hint behind the bracket of a call. -/
def hint : Question := .signatureHelp draft ⟨0, 2⟩

/-- Settings with a documentation directory and without the standard library. -/
def callsConfig : Config := { Config.default (some ⟨"/docs".toList⟩) with builtins := false }

/-- A document with a call is opened, and asked about. -/
def askedOnce : List Event := [.opened draft ['f', '('] none, .asked (callsTree 97 0 10) hint]

/-- The hint after the documentation has changed. -/
theorem answer_run_eq_reopened_changed :
    ((run callsConfig askedOnce).answer (callsTree 98 10 30) hint).1 =
      ((run callsConfig askedOnce).reopened.answer (callsTree 98 10 30) hint).1 :=
  answer_run_eq_reopened callsConfig askedOnce (callsTree 98 10 30) hint (by decide)

/-- Later changes are not enough. Once the new content has been written with a later time, the same
content may be written again with a time before the first look, and then the old one is served. -/
theorem answer_run_stale :
    ChangesAreLater [callsTree 97 0 10] (callsTree 97 0 10) (callsTree 98 70 20) ∧
      ChangesAreLater [callsTree 97 0 10] (callsTree 98 70 20) (callsTree 98 0 30) ∧
      ((run callsConfig askedOnce).answer (callsTree 98 0 30) hint).1 ≠
        ((run callsConfig askedOnce).reopened.answer (callsTree 98 0 30) hint).1 := by
  refine ⟨fun place file hfile => ?_, fun place file hfile => ?_, by decide +kernel⟩
  · have hmem := FileTree.mem_files_of_fileAt? hfile
    simp only [callsTree, List.mem_singleton, Prod.mk.injEq] at hmem
    obtain ⟨rfl, rfl⟩ := hmem
    exact Or.inr (by decide)
  · have hmem := FileTree.mem_files_of_fileAt? hfile
    simp only [callsTree, List.mem_singleton, Prod.mk.injEq] at hmem
    obtain ⟨rfl, rfl⟩ := hmem
    exact Or.inl rfl

end LuaAssist.Session

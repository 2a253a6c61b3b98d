import LuaAssist.Proofs.Completion.Pools
import LuaAssist.Proofs.Document.Positions
import LuaAssist.Proofs.Session.Caches
import LuaAssist.Proofs.Text.Names

/-!
# Accepting a candidate

The edit of a candidate starts at a position that is computed, and ends at the position that the
editor has sent. Both lead to the offsets that are meant: what is replaced is the name that is
typed up to the cursor, and nothing behind `(`, `,`, `.` or `:`.
-/

namespace LuaAssist

variable {text : Text} {cursor : Nat}

/-! ## The name that is typed -/

/-- The characters between two offsets are the run of name characters that ends at the second. -/
structure Text.IsRun (text : Text) (start stop : Nat) : Prop where
  start_le : start ≤ stop
  inside : ∀ c ∈ (text.take stop).drop start, Text.isIdentifierPart c = true
  outside : ∀ c ∈ (text.take start).getLast?, Text.isIdentifierPart c = false

/-- The text before an offset ends with the partial name of the chain there. -/
theorem TypedChain.take_eq (hle : cursor ≤ text.length) :
    text.take cursor = ((leftOf text cursor).dropWhile Text.isIdentifierPart).reverse ++
        (read text cursor).partialName ∧
      cursor - (read text cursor).partialName.length =
        ((leftOf text cursor).dropWhile Text.isIdentifierPart).reverse.length := by
  let run := (leftOf text cursor).takeWhile Text.isIdentifierPart
  let outer := (leftOf text cursor).dropWhile Text.isIdentifierPart
  have hpartial : (read text cursor).partialName = run.reverse := rfl
  have htake : text.take cursor = outer.reverse ++ run.reverse := by
    rw [← List.reverse_append, List.takeWhile_append_dropWhile]
    exact (List.reverse_reverse _).symm
  have hlength := congrArg List.length htake
  rw [List.length_take, Nat.min_eq_left hle, List.length_append] at hlength
  have hstart : cursor - run.reverse.length = outer.reverse.length := by omega
  rw [hpartial]
  exact ⟨htake, hstart⟩

/-- The partial name of a chain stands in the text between its start and the offset. -/
theorem TypedChain.partialName_eq (hle : cursor ≤ text.length) :
    (read text cursor).partialName =
      (text.take cursor).drop (cursor - (read text cursor).partialName.length) := by
  obtain ⟨htake, hstart⟩ := take_eq hle
  rw [hstart, htake, List.drop_left]

/-- The partial name of a chain is the run of name characters in front of the offset. -/
theorem TypedChain.isRun_partialName (hle : cursor ≤ text.length) :
    Text.IsRun text (cursor - (read text cursor).partialName.length) cursor := by
  obtain ⟨htake, hstart⟩ := take_eq hle
  refine ⟨Nat.sub_le _ _, ?_, ?_⟩
  · rw [← partialName_eq hle]
    intro c hmem
    exact List.all_eq_true.mp List.all_takeWhile c (List.mem_reverse.mp hmem)
  · have houter := congrArg (List.take (cursor - (read text cursor).partialName.length)) htake
    rw [List.take_take, Nat.min_eq_left (Nat.sub_le _ _), hstart, List.take_left] at houter
    rw [hstart, houter, List.getLast?_reverse]
    intro c hhead
    have hnot := List.head?_dropWhile_not Text.isIdentifierPart (leftOf text cursor)
    rwa [Option.mem_def.mp hhead] at hnot

/-- A run of name characters starts where a position leads, if it ends there. -/
theorem Text.IsRun.not_splitsReturn {start : Nat} (hrun : Text.IsRun text start cursor)
    (hcursor : ¬Document.SplitsReturn text cursor) : ¬Document.SplitsReturn text start := by
  rintro ⟨front, rest, rfl, rfl⟩
  by_cases heq : front.length + 1 = cursor
  · exact hcursor ⟨front, rest, rfl, heq.symm⟩
  · -- The line feed would be the first character of the run.
    have hle := hrun.start_le
    have hsplit : front ++ '\r' :: '\n' :: rest = (front ++ ['\r']) ++ '\n' :: rest := by simp
    have hlength : (front ++ ['\r']).length = front.length + 1 := List.length_append
    have hfeed : '\n' ∈
        ((front ++ '\r' :: '\n' :: rest).take cursor).drop (front.length + 1) := by
      obtain ⟨more, hmore⟩ : ∃ more, cursor - (front.length + 1) = more + 1 :=
        ⟨cursor - (front.length + 1) - 1, by omega⟩
      rw [List.drop_take, hsplit, ← hlength, List.drop_left, hlength, hmore, List.take_succ_cons]
      exact List.mem_cons_self
    cases Text.isBlank_of_isIdentifierPart (hrun.inside '\n' hfeed)

/-! ## The edit of a candidate -/

/-- Where an accepted text begins to replace the document. -/
theorem Completion.insertOffset_of_complete? {reason : Trigger} {whenIdle : Bool}
    {sources : Sources} {found : Completion} (hle : cursor ≤ text.length)
    (hfound : complete? text cursor reason whenIdle sources = some found) :
    found.place = (placeAt text cursor).1 ∧
      (found.place = .word →
        found.insertOffset = cursor - (TypedChain.read text cursor).partialName.length) ∧
      (found.place ≠ .word → found.insertOffset = cursor) := by
  unfold complete? at hfound
  rw [Nat.min_eq_left hle] at hfound
  split at hfound
  · cases hfound
  dsimp only at hfound
  split at hfound
  · rename_i separator hplace
    cases hfound
    exact ⟨by rw [hplace], nofun, fun _ => rfl⟩
  · rename_i separator hplace
    cases hfound
    exact ⟨by rw [hplace], nofun, fun _ => rfl⟩
  · rename_i separator hplace
    cases hfound
    exact ⟨by rw [hplace], fun _ => rfl, fun hword => absurd rfl hword⟩
  · rename_i place separator hmember hmethod hword hplace
    cases hfound
    exact ⟨by rw [hplace], fun heq => (hword heq).elim, fun _ => rfl⟩

/-- The pools of a word stand in the order of their tiers. -/
theorem Completion.merge_wordPools (offset : Nat) (typed : Text) (sources : Sources) :
    Pool.merge (wordPools text offset typed sources) =
      ((wordPools text offset typed sources).flatMap Pool.candidates).foldl Pool.offer [] := by
  rw [Pool.merge_eq_foldl_offer, Pool.byTier, List.mergeSort_of_pairwise]
  simp [wordPools, keywordPools, Pool.startingWith]

namespace Session

/-- The items are the candidates, each with an edit of the same range. -/
theorem exists_candidate_of_mem_itemsFrom {place : Place} {range : Range} {index : Nat}
    {candidates : List Candidate} {item : Item}
    (hitem : item ∈ itemsFrom place range index candidates) :
    ∃ candidate ∈ candidates, item.label = candidate.text ∧
      item.edit = ⟨range, candidate.text⟩ := by
  induction candidates generalizing index with
  | nil => cases hitem
  | cons candidate rest ih =>
    rcases List.mem_cons.mp hitem with rfl | hrest
    · exact ⟨candidate, List.mem_cons_self, rfl, rfl⟩
    · obtain ⟨other, hmem, hother⟩ := ih hrest
      exact ⟨other, List.mem_cons_of_mem _ hmem, hother⟩

/-- Looking up functions changes no settings. -/
theorem config_functions (tree : FileTree) (uri : Uri) (text : Text) (session : Session) :
    (session.functions tree uri text).2.2.config = session.config := by
  unfold functions
  dsimp only
  split <;> rfl

/-- What completion knows about a document: the functions, and after them the documentation. -/
def sources (tree : FileTree) (uri : Uri) (text : Text) (session : Session) : Sources :=
  let (own, visible, session) := session.functions tree uri text
  let (words, store) := session.store.words tree
  let (members, store) := store.members tree
  let (calls, _) := store.calls tree
  ⟨own, visible, words, members, calls⟩

/-- The items of an open document at a position are the candidates at its offset. -/
theorem completion_fst {uri : Uri} {session : Session} {document : OpenDocument}
    (hopen : session.document? uri = some document) (tree : FileTree) (position : Position)
    (reason : Trigger) :
    (session.completion tree uri position reason).1 =
      (Completion.complete? document.text (Document.offsetOf document.text position) reason
        session.config.whenIdle (session.sources tree uri document.text)).map fun found =>
          ⟨session.config.whenIdle, itemsFrom found.place
            ⟨Document.positionOf document.text found.insertOffset, position⟩ 0
            found.candidates⟩ := by
  simp only [completion, hopen, config_functions]
  rfl

/-- Accepting an item of an open document puts its text in the place of what stands between the
offset from which it replaces and the offset of the cursor: of the run of name characters that ends
at the cursor where a word is typed, and of nothing in every other place. -/
theorem apply_accepted {tree : FileTree} {uri : Uri} {position : Position} {reason : Trigger}
    {session : Session} {document : OpenDocument} {answer : Items} {item : Item}
    (hopen : session.document? uri = some document)
    (hanswer : (session.completion tree uri position reason).1 = some answer)
    (hitem : item ∈ answer.items) :
    ∃ found,
      Completion.complete? document.text (Document.offsetOf document.text position) reason
        session.config.whenIdle (session.sources tree uri document.text) = some found ∧
      (∃ candidate ∈ found.candidates, item.label = candidate.text) ∧
      Document.apply document.text item.edit.toChange =
        document.text.take found.insertOffset ++ item.label ++
          document.text.drop (Document.offsetOf document.text position) ∧
      found.place =
        (Completion.placeAt document.text (Document.offsetOf document.text position)).1 ∧
      (found.place = .word →
        Text.IsRun document.text found.insertOffset (Document.offsetOf document.text position)) ∧
      (found.place ≠ .word →
        found.insertOffset = Document.offsetOf document.text position) := by
  rw [completion_fst hopen] at hanswer
  obtain ⟨found, hfound, rfl⟩ := Option.map_eq_some_iff.mp hanswer
  obtain ⟨candidate, hcandidate, hlabel, hedit⟩ := exists_candidate_of_mem_itemsFrom hitem
  have hcursor := Document.offsetOf_le document.text position
  have hsplits := Document.not_splitsReturn_offsetOf document.text position
  obtain ⟨hplace, hword, hother⟩ := Completion.insertOffset_of_complete? hcursor hfound
  have hrun (htyped : found.place = .word) : Text.IsRun document.text found.insertOffset
      (Document.offsetOf document.text position) := by
    rw [hword htyped]
    exact TypedChain.isRun_partialName hcursor
  -- The offset from which the item replaces is one to which its position leads back.
  have hstart : found.insertOffset ≤ Document.offsetOf document.text position ∧
      ¬Document.SplitsReturn document.text found.insertOffset := by
    by_cases htyped : found.place = .word
    · exact ⟨(hrun htyped).start_le, (hrun htyped).not_splitsReturn hsplits⟩
    · rw [hother htyped]
      exact ⟨Nat.le_refl _, hsplits⟩
  have hback := Document.offsetOf_positionOf (Nat.le_trans hstart.1 hcursor) hstart.2
  refine ⟨found, hfound, ⟨candidate, hcandidate, hlabel⟩, ?_, hplace, hrun, hother⟩
  simp only [hedit, hlabel, Document.Edit.toChange, Document.apply, Document.replace, hback,
    Nat.max_eq_right hstart.1]

/-- A document whose second line is being typed. -/
def typedText : Text := "local count\r\n😀 = co".toList

/-- A session with that document, without documentation and the standard library. -/
def typedSession : Session :=
  (Session.new { Config.default none with builtins := false }).openDocument draft typedText none

/-- The name from the first line, which replaces the two letters typed so far. -/
def countItem : Item :=
  ⟨"count".toList, .variable, "00000".toList, ⟨⟨⟨1, 5⟩, ⟨1, 7⟩⟩, "count".toList⟩⟩

/-- A name is accepted behind a character of two units, on a line behind a break of two
characters. -/
theorem apply_accepted_count :
    typedSession.document? draft = some ⟨typedText, none⟩ ∧
      (typedSession.completion ⟨[], [], 0⟩ draft ⟨1, 7⟩ .explicit).1 = some ⟨false, [countItem]⟩ ∧
      ∃ start, Document.apply typedText countItem.edit.toChange =
        typedText.take start ++ "count".toList ++ typedText.drop 19 := by
  have hopen : typedSession.document? draft = some ⟨typedText, none⟩ := by decide +kernel
  have hcursor : Document.offsetOf typedText ⟨1, 7⟩ = 19 := by decide
  have hanswer : (typedSession.completion ⟨[], [], 0⟩ draft ⟨1, 7⟩ .explicit).1 =
      some ⟨false, [countItem]⟩ := by
    rw [completion_fst hopen]
    simp only [Completion.complete?, hcursor, Completion.merge_wordPools]
    decide +kernel
  obtain ⟨found, _, _, happly, _⟩ := apply_accepted hopen hanswer (List.mem_singleton_self _)
  rw [hcursor] at happly
  exact ⟨hopen, hanswer, found.insertOffset, happly⟩

end Session

end LuaAssist

import LuaAssist.Hint
import LuaAssist.Scope.Visible
import LuaAssist.Text.LetterCase
import LuaAssist.Text.TextSet
import LuaAssist.Words

/-!
# Completion

What can be typed next depends on what stands left of the cursor. Each kind of place
asks several pools for texts; pools have tiers, and the merged list offers every text
once, in the highest tier that has it.
-/

namespace LuaAssist

/-- Why completion is asked for. -/
inductive Trigger where
  /-- The user asked. -/
  | explicit
  /-- A character was typed that asks for it. -/
  | character
  /-- Typing paused. -/
  | idle
  deriving DecidableEq, Repr

/-- What the text left of the cursor asks for. -/
inductive Place where
  /-- Behind `(` or `,`. -/
  | argument
  /-- Behind `.`. -/
  | member
  /-- Behind `:`. -/
  | method
  /-- Anywhere else. -/
  | word
  deriving DecidableEq, Repr

/-- What a candidate is. -/
inductive Category where
  | variable
  | function
  | keyword
  | metamethod
  deriving DecidableEq, Repr

/-- A text to choose. -/
structure Candidate where
  text : Text
  category : Category
  /-- The tier of its pool; higher ones come first. -/
  tier : Nat
  deriving DecidableEq, Repr

/-- Texts of one category and one tier. -/
structure Pool where
  category : Category
  tier : Nat
  texts : List Text
  deriving DecidableEq, Repr

namespace Pool

/-- The pool as candidates. -/
def candidates (pool : Pool) : List Candidate :=
  pool.texts.map fun text => ⟨text, pool.category, pool.tier⟩

/-- Keeps the texts that start, in lowercase, with a text in lowercase. -/
def startingWith (lowered : Text) (pool : Pool) : Pool :=
  { pool with texts := pool.texts.filter fun text => lowered.isPrefixOf (Text.lowercase text) }

/-- Pools with the higher tiers first; pools of one tier keep their order. -/
def byTier (pools : List Pool) : List Pool := pools.mergeSort fun a b => b.tier ≤ a.tier

/-- The candidates whose texts come up for the first time, given the texts seen before. -/
def unseen (seen : TextSet) : List Candidate → List Candidate
  | [] => []
  | candidate :: rest =>
    if seen.contains candidate.text then unseen seen rest
    else candidate :: unseen (seen.insert candidate.text) rest

/-- All texts of some pools, each once, in the highest tier that has it. -/
def merge (pools : List Pool) : List Candidate :=
  unseen .empty ((byTier pools).flatMap candidates)

end Pool

/-- What completion knows about a document and its surroundings. -/
structure Sources where
  /-- The functions that the document defines. -/
  own : List Signature
  /-- The functions that the document can use. -/
  visible : List Signature
  /-- Documented words. -/
  words : List Text
  /-- Documented types. -/
  members : Documentation.MemberTable
  /-- Documented functions. -/
  calls : Documentation.CallTable

/-- The candidates for a place. -/
structure Completion where
  place : Place
  candidates : List Candidate
  /-- Where an accepted text begins to replace the document. -/
  insertOffset : Nat
  /-- Only what belongs to the receiver is offered. -/
  perfect : Bool
  deriving DecidableEq, Repr

namespace Completion

/-- The place at an offset, and the offset of the last character before it that is not
blank. -/
def placeAt (text : Text) (offset : Nat) : Place × Option Nat :=
  match Text.trimStart (TypedChain.leftOf text offset) with
  | [] => (.word, none)
  | c :: rest =>
    (if c = '(' || c = ',' then .argument
      else if c = '.' then .member
      else if c = ':' then .method
      else .word, some rest.length)

/-- Drops `()` at the end. -/
def dropCall (text : Text) : Text :=
  match text.reverse with
  | ')' :: '(' :: rest => rest.reverse
  | _ => text

/-- What stands left of a separator: the identifier there or, failing that, all characters
up to the next blank. Nothing stands left of a place outside the document. -/
def receiver (text : Text) (separator : Nat) : Text :=
  let left := TypedChain.leftOf text separator
  let name := (Text.trimStart left).takeWhile Text.isIdentifierPart
  if text.length < separator then []
  else if name.isEmpty then dropCall (left.takeWhile fun c => !Text.isBlank c).reverse
  else name.reverse

/-- What is known to belong to a receiver. -/
def receiverPools (place : Place) (receiver : Text) (sources : Sources) : List Pool :=
  let functions := sources.visible.filter fun s => s.owner = some receiver
  ⟨.function, 1, functions.map Signature.name⟩ ::
    match place with
    | .method => [⟨.function, 1, (sources.calls.ownedBy receiver).map Documentation.Call.name⟩]
    | .member => [⟨.variable, 1, sources.members.membersOf receiver⟩]
    | _ => []

/-- The pools behind a separator whose receiver is unknown. -/
def memberPools (place : Place) (text : Text) (offset : Nat) (sources : Sources) : List Pool :=
  let scope := Scope.visible text offset
  let chain := (TypedChain.read text offset).segments
  let reached := if chain.isEmpty then none else scope.members? chain
  (match reached with
    | some names => [⟨.variable, 4, names⟩]
    | none => []) ++
  [⟨.variable, 3, scope.names⟩] ++
  (if place = .method then
    [⟨.function, 2, sources.calls.words⟩, ⟨.function, 2, sources.own.map Signature.name⟩]
  else [⟨.variable, 2, sources.members.words⟩]) ++
  [⟨.keyword, 1, Words.selfName⟩] ++
  (if place = .method then [⟨.metamethod, 0, Words.metamethods⟩] else [])

/-- The pools of keywords, from the receiver's own name down to literals. -/
def keywordPools : List Pool :=
  [⟨.keyword, 3, Words.selfName⟩, ⟨.keyword, 2, Words.declaration⟩,
   ⟨.keyword, 1, Words.statement⟩, ⟨.keyword, 0, Words.literal⟩]

/-- The pools for a word that is typed so far. -/
def wordPools (text : Text) (offset : Nat) (typed : Text) (sources : Sources) : List Pool :=
  (⟨.variable, 6, (Scope.visible text offset).names⟩ ::
    ⟨.function, 5, sources.own.map Signature.name⟩ ::
    ⟨.variable, 4, sources.words⟩ :: keywordPools).map
      (Pool.startingWith (Text.lowercase typed))

/-- The pools for an argument. -/
def argumentPools (text : Text) (offset : Nat) : List Pool :=
  ⟨.variable, 4, (Scope.visible text offset).names⟩ :: keywordPools

/-- The pools behind a separator, and whether they hold only what belongs to the receiver. -/
def separatorPools (place : Place) (text : Text) (offset separator : Nat) (sources : Sources) :
    List Pool × Bool :=
  let own := receiverPools place (receiver text separator) sources
  if own.any fun pool => !pool.texts.isEmpty then (own, true)
  else (memberPools place text offset sources, false)

/-- The candidates at an offset. After a pause in typing there are none unless these are
wanted. -/
def complete? (text : Text) (cursor : Nat) (reason : Trigger) (whenIdle : Bool)
    (sources : Sources) : Option Completion :=
  if reason = .idle && !whenIdle then none
  else
    let offset := min cursor text.length
    match placeAt text offset with
    | (.member, some separator) =>
      let (pools, perfect) := separatorPools .member text offset separator sources
      some ⟨.member, Pool.merge pools, offset, perfect⟩
    | (.method, some separator) =>
      let (pools, perfect) := separatorPools .method text offset separator sources
      some ⟨.method, Pool.merge pools, offset, perfect⟩
    | (.word, _) =>
      let typed := (TypedChain.read text offset).partialName
      some ⟨.word, Pool.merge (wordPools text offset typed sources), offset - typed.length, false⟩
    | (place, _) => some ⟨place, Pool.merge (argumentPools text offset), offset, false⟩

end Completion

/-- What an editor shows at the cursor. -/
inductive Assist where
  | hint (hint : Hint)
  | completion (completion : Completion)
  deriving DecidableEq, Repr

/-- A hint if there is one, and completion otherwise. -/
def Assist.find? (text : Text) (cursor : Nat) (reason : Trigger) (whenIdle : Bool)
    (sources : Sources) : Option Assist :=
  match Hint.find? text cursor sources.visible sources.calls with
  | some found => some (.hint found)
  | none => (Completion.complete? text cursor reason whenIdle sources).map .completion

end LuaAssist

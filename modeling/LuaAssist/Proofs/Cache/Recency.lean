import LuaAssist.Cache.Texts
import LuaAssist.Proofs.Scope.Members
import Mathlib.Data.Finset.Card

/-!
# The texts that a cache keeps

After a history of requests a cache of texts holds the values of the distinct texts that were asked
for last, as many as it has room for. Here the cache tells texts apart by themselves. A cache that
tells them apart by a key and moves, inserts and forgets its entries one by one does the same, as
long as no two of the texts have the same key.
-/

namespace LuaAssist.TextCache

variable {α : Type} {parse : Text → α} {cache : TextCache α} {history : List Text} {text : Text}
  {capacity : Nat}

/-- How many values a cache of a capacity keeps. -/
def room (capacity : Nat) : Nat := if capacity = 0 then 64 else capacity

/-- There is room for one entry at least. -/
theorem room_pos (capacity : Nat) : 0 < room capacity := by
  unfold room
  split <;> omega

/-- The distinct texts of a history of requests, the last request first. -/
def recent (history : List Text) : List Text := history.reverse.eraseDups

/-- The cache after a history of requests. -/
def after (parse : Text → α) (capacity : Nat) (history : List Text) : TextCache α :=
  history.foldl (fun cache text => (cache.get parse text).2) (new capacity)

/-- A history is gone through request by request. -/
theorem after_concat (parse : Text → α) (capacity : Nat) (history : List Text) (text : Text) :
    after parse capacity (history ++ [text]) =
      ((after parse capacity history).get parse text).2 := by
  rw [after, List.foldl_append]
  rfl

/-! ## Recent texts -/

/-- The texts of a history are listed once. -/
theorem nodup_recent (history : List Text) : (recent history).Nodup := Scope.nodup_eraseDups _

/-- They are those that were asked for. -/
theorem mem_recent : text ∈ recent history ↔ text ∈ history := by
  rw [recent, List.mem_eraseDups, List.mem_reverse]

/-- There are as many recent texts as there are distinct ones. -/
theorem length_recent (history : List Text) : (recent history).length = history.toFinset.card := by
  rw [← List.toFinset_card_of_nodup (nodup_recent history)]
  exact congrArg Finset.card (Finset.ext fun _ => by simp [mem_recent])

/-- A request puts its text in front of the others. -/
theorem recent_concat (history : List Text) (text : Text) :
    recent (history ++ [text]) = text :: (recent history).filter (· ≠ text) := by
  rw [recent, List.reverse_append, List.reverse_singleton, List.singleton_append,
    List.eraseDups_cons, Scope.eraseDups_filter, recent]
  exact congrArg (text :: ·) (List.filter_congr fun other _ => Bool.eq_iff_iff.mpr (by simp))

/-- Of distinct texts but one the first few do not depend on those far behind. -/
theorem take_filter_take {texts : List Text} (hnodup : texts.Nodup) (text : Text) (n : Nat) :
    ((texts.take (n + 1)).filter (· ≠ text)).take n = (texts.filter (· ≠ text)).take n := by
  induction texts generalizing n with
  | nil => rfl
  | cons first texts ih =>
    obtain ⟨hnew, hrest⟩ := List.nodup_cons.mp hnodup
    rw [List.take_succ_cons]
    by_cases hfirst : first = text
    · -- The text stands in front, so all that follow are kept.
      have hkept : texts.filter (· ≠ text) = texts := List.filter_eq_self.mpr fun other hmem => by
        simpa using fun heq : other = text => hnew (hfirst.trans heq.symm ▸ hmem)
      have htaken : (texts.take n).filter (· ≠ text) = texts.take n :=
        List.filter_eq_self.mpr fun other hmem =>
          List.filter_eq_self.mp hkept other (List.mem_of_mem_take hmem)
      rw [List.filter_cons_of_neg (by simp [hfirst]), List.filter_cons_of_neg (by simp [hfirst]),
        htaken, hkept, List.take_take, Nat.min_self]
    · rw [List.filter_cons_of_pos (by simp [hfirst]), List.filter_cons_of_pos (by simp [hfirst])]
      cases n with
      | zero => rfl
      | succ n => rw [List.take_succ_cons, List.take_succ_cons, ih hrest]

/-! ## What is kept -/

/-- The values of the texts that were asked for last. -/
structure KeepsRecent (parse : Text → α) (history : List Text) (cache : TextCache α) : Prop where
  room_pos : 0 < cache.capacity
  entries : cache.entries = ((recent history).take cache.capacity).map fun text =>
    (text, parse text)

/-- A new cache keeps what the empty history asks for. -/
theorem keepsRecent_new (parse : Text → α) (capacity : Nat) :
    (new capacity).KeepsRecent parse [] := ⟨room_pos capacity, by simp [new, recent]⟩

/-- There are no more entries than there is room for. -/
theorem KeepsRecent.length_le (hkeeps : cache.KeepsRecent parse history) :
    cache.entries.length ≤ cache.capacity := by
  rw [hkeeps.entries, List.length_map]
  exact List.length_take_le _ _

/-- Only texts that were asked for are kept. -/
theorem KeepsRecent.mem_history (hkeeps : cache.KeepsRecent parse history) {entry : Text × α}
    (hmem : entry ∈ cache.entries) : entry.1 ∈ history := by
  rw [hkeeps.entries] at hmem
  obtain ⟨text, htext, rfl⟩ := List.mem_map.mp hmem
  exact mem_recent.mp (List.mem_of_mem_take htext)

/-- A text is served if it is kept. -/
theorem KeepsRecent.served? (hkeeps : cache.KeepsRecent parse history) (text : Text) :
    cache.served? text =
      if text ∈ (recent history).take cache.capacity then some (parse text) else none := by
  rw [TextCache.served?, hkeeps.entries]
  generalize (recent history).take cache.capacity = texts
  induction texts with
  | nil => rfl
  | cons first texts ih =>
    rw [List.map_cons, List.lookup_cons, ih]
    by_cases hfirst : text = first
    · simp [hfirst]
    · simp [hfirst, beq_eq_false_iff_ne.mpr hfirst]

/-- The answer to a request is served if the text is kept, and computed otherwise. -/
theorem KeepsRecent.get_fst (hkeeps : cache.KeepsRecent parse history) (other : Text → α)
    (text : Text) :
    (cache.get other text).1 =
      if text ∈ (recent history).take cache.capacity then parse text else other text := by
  show (cache.served? text).getD (other text) = _
  rw [hkeeps.served?]
  split <;> rfl

/-- A request puts its text in front and forgets the last one that is too much. -/
theorem KeepsRecent.get_snd (hkeeps : cache.KeepsRecent parse history) (text : Text) :
    (cache.get parse text).2.KeepsRecent parse (history ++ [text]) := by
  refine ⟨hkeeps.room_pos, ?_⟩
  have hvalue : (cache.get parse text).1 = parse text := by rw [hkeeps.get_fst, ite_self]
  have hentries : (cache.get parse text).2.entries =
      ((text, parse text) :: cache.entries.filter fun entry => entry.1 ≠ text).take
        cache.capacity := by
    rw [← hvalue]
    rfl
  obtain ⟨n, hn⟩ := Nat.exists_eq_add_of_le' hkeeps.room_pos
  have hfilter : cache.entries.filter (fun entry => entry.1 ≠ text) =
      (((recent history).take (n + 1)).filter (· ≠ text)).map fun text => (text, parse text) := by
    rw [hkeeps.entries, hn, List.filter_map]
    rfl
  have hcapacity : (cache.get parse text).2.capacity = n + 1 := hn
  rw [hentries, hfilter, hcapacity, hn, recent_concat, List.take_succ_cons, List.take_succ_cons,
    List.map_cons, ← List.map_take, take_filter_take (nodup_recent history)]

/-- After a history of requests a cache keeps the recent texts. -/
theorem keepsRecent_after (parse : Text → α) (capacity : Nat) (history : List Text) :
    (after parse capacity history).KeepsRecent parse history := by
  induction history using List.reverseRecOn with
  | nil => exact keepsRecent_new parse capacity
  | append_singleton history text ih =>
    exact after_concat parse capacity history text ▸ ih.get_snd text

/-- Requests do not change the room. -/
theorem capacity_after (parse : Text → α) (capacity : Nat) (history : List Text) :
    (after parse capacity history).capacity = room capacity := by
  induction history using List.reverseRecOn with
  | nil => rfl
  | append_singleton history text ih => exact after_concat parse capacity history text ▸ ih

/-! ## Entries one by one -/

/-- A text that is kept already is moved to the front, and nothing is forgotten. -/
theorem entries_touch_of_served {value : α} (hlength : cache.entries.length ≤ cache.capacity)
    (hserved : cache.served? text = some value) (new : α) :
    (cache.touch text new).entries =
      (text, new) :: cache.entries.filter fun entry => entry.1 ≠ text := by
  obtain ⟨front, behind, heq, -⟩ := List.lookup_eq_some_iff.mp hserved
  have hshorter : (cache.entries.filter fun entry => entry.1 ≠ text).length <
      cache.entries.length :=
    List.length_filter_lt_length_iff_exists.mpr ⟨(text, value), by simp [heq], by simp⟩
  refine List.take_of_length_le ?_
  rw [List.length_cons]
  exact Nat.le_trans hshorter hlength

/-- A text that is not kept comes in front, and the last one is forgotten if there is no room. -/
theorem entries_touch_of_missing (hroom : 0 < cache.capacity)
    (hlength : cache.entries.length ≤ cache.capacity) (hmissing : cache.served? text = none)
    (new : α) :
    (cache.touch text new).entries = (text, new) ::
      if cache.entries.length < cache.capacity then cache.entries else cache.entries.dropLast := by
  have hall : cache.entries.filter (fun entry => entry.1 ≠ text) = cache.entries := by
    refine List.filter_eq_self.mpr fun entry hmem => ?_
    have hother := List.lookup_eq_none_iff.mp hmissing entry hmem
    simpa using fun heq : entry.1 = text => by simp [heq] at hother
  obtain ⟨n, hn⟩ := Nat.exists_eq_add_of_le' hroom
  have hentries : (cache.touch text new).entries = (text, new) :: cache.entries.take n := by
    rw [touch, hall, hn, List.take_succ_cons]
  rw [hentries]
  split
  · rw [List.take_of_length_le (by omega)]
  · rw [List.dropLast_eq_take, show cache.entries.length - 1 = n by omega]

/-! ## Entries under keys -/

section

variable {κ : Type} [DecidableEq κ] {key : Text → κ}

/-- The value under a key, and the entries with that of the key in front. -/
def use? (key : κ) (entries : List (κ × α)) : Option (α × List (κ × α)) :=
  (entries.lookup key).map fun value =>
    (value, (key, value) :: entries.filter fun entry => entry.1 ≠ key)

/-- The entries with a new one in front. It takes the place of one of its key, and if there is none
and no room, that of the last one. -/
def push (room : Nat) (key : κ) (value : α) (entries : List (κ × α)) : List (κ × α) :=
  if (entries.lookup key).isSome then (key, value) :: entries.filter fun entry => entry.1 ≠ key
  else if entries.length < room then (key, value) :: entries
  else (key, value) :: entries.dropLast

/-- A request for a text: its key is looked up, and a value that is not found is computed and put
in. -/
def request (room : Nat) (key : Text → κ) (parse : Text → α) (text : Text)
    (entries : List (κ × α)) : α × List (κ × α) :=
  match use? (key text) entries with
  | some found => found
  | none => (parse text, push room (key text) (parse text) entries)

/-- The entries after a history of requests. -/
def entriesAfter (key : Text → κ) (parse : Text → α) (capacity : Nat) (history : List Text) :
    List (κ × α) :=
  history.foldl (fun entries text => (request (room capacity) key parse text entries).2) []

/-- The entries of a cache under the keys of their texts. -/
def underKeys (key : Text → κ) (cache : TextCache α) : List (κ × α) :=
  cache.entries.map fun entry => (key entry.1, entry.2)

/-- The value under the key of a text is the value of the text. -/
theorem lookup_underKeys
    (hkeys : ∀ entry ∈ cache.entries, key entry.1 = key text → entry.1 = text) :
    (cache.underKeys key).lookup (key text) = cache.served? text := by
  unfold underKeys TextCache.served?
  generalize cache.entries = entries at hkeys
  induction entries with
  | nil => rfl
  | cons entry entries ih =>
    obtain ⟨hentry, hrest⟩ := List.forall_mem_cons.mp hkeys
    rw [List.map_cons, List.lookup_cons, List.lookup_cons, ih hrest]
    by_cases heq : text = entry.1
    · simp [heq]
    · have hkey : key text ≠ key entry.1 := fun hsame => heq (hentry hsame.symm).symm
      rw [beq_eq_false_iff_ne.mpr heq, beq_eq_false_iff_ne.mpr hkey]

/-- The entries under other keys than that of a text are those of the other texts. -/
theorem filter_underKeys
    (hkeys : ∀ entry ∈ cache.entries, key entry.1 = key text → entry.1 = text) :
    (cache.underKeys key).filter (fun entry => entry.1 ≠ key text) =
      (cache.entries.filter fun entry => entry.1 ≠ text).map
        fun entry => (key entry.1, entry.2) := by
  rw [underKeys, List.filter_map]
  refine congrArg (List.map _) (List.filter_congr fun entry hmem => ?_)
  have hsame : key entry.1 = key text ↔ entry.1 = text := ⟨hkeys entry hmem, congrArg key⟩
  simp [hsame]

/-- Where no two texts have the same key, a request by key does what a request by text does. -/
theorem request_underKeys (hroom : 0 < cache.capacity)
    (hlength : cache.entries.length ≤ cache.capacity)
    (hkeys : ∀ entry ∈ cache.entries, key entry.1 = key text → entry.1 = text)
    (parse : Text → α) :
    request cache.capacity key parse text (cache.underKeys key) =
      ((cache.get parse text).1, (cache.get parse text).2.underKeys key) := by
  have hlookup := lookup_underKeys hkeys
  cases hserved : cache.served? text with
  | some value =>
    have htouch : (cache.touch text value).underKeys key =
        (key text, value) :: (cache.underKeys key).filter fun entry => entry.1 ≠ key text := by
      rw [filter_underKeys hkeys, underKeys, entries_touch_of_served hlength hserved,
        List.map_cons]
    rw [hserved] at hlookup
    simp only [request, use?, hlookup, Option.map_some, get, hserved, Option.getD_some, htouch]
  | none =>
    have htouch : (cache.touch text (parse text)).underKeys key = (key text, parse text) ::
        if (cache.underKeys key).length < cache.capacity then cache.underKeys key
        else (cache.underKeys key).dropLast := by
      rw [underKeys, entries_touch_of_missing hroom hlength hserved, List.map_cons,
        apply_ite (List.map _), List.map_dropLast, underKeys, List.length_map]
    rw [hserved] at hlookup
    simp only [request, use?, hlookup, Option.map_none, push, Option.isSome_none,
      Bool.false_eq_true, if_false, get, hserved, Option.getD_none, htouch]
    split <;> rfl

/-- The same after a history of requests for texts that do not share the key. -/
theorem KeepsRecent.request_underKeys (hkeeps : cache.KeepsRecent parse history)
    (hkeys : ∀ earlier ∈ history, key earlier = key text → earlier = text) (other : Text → α) :
    request cache.capacity key other text (cache.underKeys key) =
      ((cache.get other text).1, (cache.get other text).2.underKeys key) :=
  TextCache.request_underKeys hkeeps.room_pos hkeeps.length_le
    (fun entry hmem => hkeys entry.1 (hkeeps.mem_history hmem)) other

/-- Where no two texts of a history have the same key, requests by key leave the entries that
requests by text leave. -/
theorem entriesAfter_eq (parse : Text → α) (capacity : Nat)
    (hkeys : ∀ first ∈ history, ∀ second ∈ history, key first = key second → first = second) :
    entriesAfter key parse capacity history = (after parse capacity history).underKeys key := by
  induction history using List.reverseRecOn with
  | nil => rfl
  | append_singleton history text ih =>
    have hfront : history ⊆ history ++ [text] := List.subset_append_left _ _
    have hlast : text ∈ history ++ [text] := by simp
    have hstep := (keepsRecent_after parse capacity history).request_underKeys
      (fun earlier hmem => hkeys earlier (hfront hmem) text hlast) parse
    rw [capacity_after] at hstep
    have hentries := ih fun first hfirst second hsecond =>
      hkeys first (hfront hfirst) second (hfront hsecond)
    rw [entriesAfter, List.foldl_append, ← entriesAfter, List.foldl_cons, List.foldl_nil,
      hentries, hstep, after_concat]

/-- After a history of requests, a request for a text is answered with its value, which is computed
exactly if the text is not among the distinct texts, as many as there is room for, that were asked
for last. Then the cache keeps the values of these texts as they are with the new request, the last
one in front. A cache that looks up, moves, puts in and forgets entries by keys of which no two of
the texts share one gives the same answer and keeps the same values. -/
theorem get_keeps_recent (parse : Text → α) (capacity : Nat) (history : List Text) (text : Text)
    (hkeys : ∀ first ∈ history ++ [text], ∀ second ∈ history ++ [text],
      key first = key second → first = second) :
    ((after parse capacity history).get parse text).1 = parse text ∧
      (∀ other : Text → α, ((after parse capacity history).get other text).1 =
        if text ∈ (recent history).take (room capacity) then parse text else other text) ∧
      ((after parse capacity history).get parse text).2.entries =
        ((recent (history ++ [text])).take (room capacity)).map (fun kept => (kept, parse kept)) ∧
      ((after parse capacity history).get parse text).2.entries.length =
        min (room capacity) (history ++ [text]).toFinset.card ∧
      (∀ other : Text → α,
        (request (room capacity) key other text (entriesAfter key parse capacity history)).1 =
          ((after parse capacity history).get other text).1) ∧
      (request (room capacity) key parse text (entriesAfter key parse capacity history)).2 =
        ((recent (history ++ [text])).take (room capacity)).map fun kept =>
          (key kept, parse kept) := by
  have hkeeps := keepsRecent_after parse capacity history
  have hcapacity := capacity_after parse capacity history
  have hentries : ((after parse capacity history).get parse text).2.entries =
      ((recent (history ++ [text])).take (room capacity)).map fun kept => (kept, parse kept) :=
    hcapacity ▸ (hkeeps.get_snd text).entries
  have hfront : history ⊆ history ++ [text] := List.subset_append_left _ _
  have hbykey (other : Text → α) := hkeeps.request_underKeys
    (fun earlier hmem => hkeys earlier (hfront hmem) text (by simp)) other
  rw [hcapacity, ← entriesAfter_eq parse capacity fun first hfirst second hsecond =>
    hkeys first (hfront hfirst) second (hfront hsecond)] at hbykey
  refine ⟨?_, fun other => ?_, hentries, ?_, fun other => ?_, ?_⟩
  · rw [hkeeps.get_fst, ite_self]
  · rw [hkeeps.get_fst, hcapacity]
  · rw [hentries, List.length_map, List.length_take, length_recent]
  · rw [hbykey]
  · rw [hbykey, underKeys, hentries, List.map_map]
    rfl

end

/-- The number that digits spell. -/
def numberOf (digits : Text) : Nat := digits.foldl (fun number c => 10 * number + (c.toNat - 48)) 0

/-- Of three texts a cache with room for two keeps the last two, whether it tells them apart by
themselves or by their numbers. -/
theorem get_keeps_recent_numbers :
    (∀ first ∈ [['7'], ['8'], ['7'], ['9']], ∀ second ∈ [['7'], ['8'], ['7'], ['9']],
        numberOf first = numberOf second → first = second) ∧
      ((after List.length 2 [['7'], ['8'], ['7']]).get List.length ['9']).2.entries =
        [(['9'], 1), (['7'], 1)] ∧
      (request 2 numberOf List.length ['9']
        (entriesAfter numberOf List.length 2 [['7'], ['8'], ['7']])).2 = [(9, 1), (7, 1)] := by
  have hkeys : ∀ first ∈ [['7'], ['8'], ['7'], ['9']], ∀ second ∈ [['7'], ['8'], ['7'], ['9']],
      numberOf first = numberOf second → first = second := by decide
  obtain ⟨-, -, hentries, -, -, hbykey⟩ :=
    get_keeps_recent List.length 2 [['7'], ['8'], ['7']] ['9'] hkeys
  exact ⟨hkeys, hentries, hbykey⟩

end LuaAssist.TextCache

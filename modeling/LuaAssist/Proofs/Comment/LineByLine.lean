import LuaAssist.Proofs.Scope.Members
import LuaAssist.Require

/-!
# Found line by line

Functions and references are found on each line alone and carry the number of their line. So two
texts with the same number of lines have the same ones if and only if each line has. Search
patterns carry no number: they are those of the lines, each where it first appears.
-/

namespace LuaAssist

/-! ## Numbered lines -/

section Numbered

variable {α β : Type} {key : α → Nat} {number : Nat}

/-- What is found on one line is told apart by its number from what is found on later ones. -/
theorem append_eq_append_iff_of_keys {early late other beyond : List α}
    (hearly : ∀ found ∈ early, key found = number) (hother : ∀ found ∈ other, key found = number)
    (hlate : ∀ found ∈ late, number < key found)
    (hbeyond : ∀ found ∈ beyond, number < key found) :
    early ++ late = other ++ beyond ↔ early = other ∧ late = beyond := by
  have hfilter : ∀ {front behind : List α}, (∀ found ∈ front, key found = number) →
      (∀ found ∈ behind, number < key found) →
        (front ++ behind).filter (fun found => key found = number) = front := by
    intro front behind hfront hbehind
    rw [List.filter_append, List.filter_eq_self.mpr (by simpa using hfront),
      List.filter_eq_nil_iff.mpr, List.append_nil]
    intro found hmem
    have hlt := hbehind found hmem
    simpa using by omega
  constructor
  · intro heq
    have hfront := congrArg (List.filter fun found => decide (key found = number)) heq
    rw [hfilter hearly hlate, hfilter hother hbeyond] at hfront
    exact ⟨hfront, List.append_cancel_left (hfront ▸ heq)⟩
  · rintro ⟨rfl, rfl⟩
    rfl

/-- Options with the same members are the same. -/
theorem toList_eq_toList_iff {found other : Option α} :
    found.toList = other.toList ↔ found = other := by
  refine ⟨fun hsame => ?_, congrArg Option.toList⟩
  calc found = found.toList.head? := Option.head?_toList.symm
    _ = other.toList.head? := by rw [hsame]
    _ = other := Option.head?_toList

/-- What is found on numbered lines, one line after the other. -/
def findFrom (find : Nat → Text → List α) (number : Nat) : List Text → List α
  | [] => []
  | line :: rest => find number line ++ findFrom find (number + 1) rest

variable {find : Nat → Text → List α}

/-- It has the numbers of these lines. -/
theorem le_of_mem_findFrom (hkey : ∀ number line, ∀ found ∈ find number line, key found = number)
    {lines : List Text} : ∀ found ∈ findFrom find number lines, number ≤ key found := by
  induction lines generalizing number with
  | nil => exact List.forall_mem_nil _
  | cons line lines ih =>
    refine List.forall_mem_append.mpr ⟨fun found hmem => ?_, fun found hmem => ?_⟩
    · exact Nat.le_of_eq (hkey number line found hmem).symm
    · exact Nat.le_of_succ_le (ih found hmem)

/-- On two forms of the same lines the same is found if and only if it is on each line. -/
theorem findFrom_map_eq_iff
    (hkey : ∀ number line, ∀ found ∈ find number line, key found = number)
    (hrenumber : ∀ number line other, find number line = find number other ↔
      find 0 line = find 0 other) (form other : β → Text) (places : List β) :
    findFrom find number (places.map form) = findFrom find number (places.map other) ↔
      ∀ place ∈ places, find 0 (form place) = find 0 (other place) := by
  induction places generalizing number with
  | nil => simp [findFrom]
  | cons place places ih =>
    rw [List.map_cons, List.map_cons, findFrom, findFrom,
      append_eq_append_iff_of_keys (hkey number _) (hkey number _) (le_of_mem_findFrom hkey)
        (le_of_mem_findFrom hkey), hrenumber, ih, List.forall_mem_cons]

end Numbered

/-! ## Functions -/

namespace Signature

/-- Functions are found line by line. -/
theorem ofLines_eq_findFrom (number : Nat) (lines : List Text) :
    ofLines number lines = findFrom (fun number line => (ofLine? number line).toList) number
      lines := by
  induction lines generalizing number with
  | nil => rfl
  | cons line lines ih => rw [ofLines, findFrom, ih]

/-- The number of a line is all that its function has from the lines around. -/
theorem ofLine?_eq_map (number : Nat) (line : Text) :
    ofLine? number line =
      (ofLine? 0 line).map fun signature => { signature with line := number } := by
  unfold ofLine?
  cases Text.cutAtWord? "function".toList Text.endsWord none line with
  | none => rfl
  | some cut =>
    simp only [Option.bind_eq_bind, Option.bind_some]
    cases header? cut.2 with
    | none => rfl
    | some header =>
      simp only [Option.bind_some]
      split <;> rfl

/-- A function has the number of its line. -/
theorem line_of_mem_ofLine? {number : Nat} {line : Text} :
    ∀ signature ∈ (ofLine? number line).toList, signature.line = number := by
  intro signature hmem
  rw [ofLine?_eq_map, Option.mem_toList] at hmem
  obtain ⟨other, -, rfl⟩ := Option.map_eq_some_iff.mp hmem
  rfl

/-- Two lines that define the same function do so under each number. -/
theorem ofLine?_renumber (number : Nat) (line other : Text) :
    (ofLine? number line).toList = (ofLine? number other).toList ↔
      (ofLine? 0 line).toList = (ofLine? 0 other).toList := by
  simp only [toList_eq_toList_iff]
  constructor
  · intro hsame
    rw [ofLine?_eq_map number line, ofLine?_eq_map number other] at hsame
    have hzero := congrArg (Option.map fun signature => { signature with line := 0 }) hsame
    rw [Option.map_map, Option.map_map] at hzero
    rw [ofLine?_eq_map 0 line, ofLine?_eq_map 0 other]
    exact hzero
  · intro hsame
    rw [ofLine?_eq_map number line, hsame, ← ofLine?_eq_map]

end Signature

/-! ## References and search patterns -/

namespace Require

/-- References are found line by line. -/
theorem referencesFrom_eq_findFrom (number : Nat) (lines : List Text) :
    referencesFrom number lines = findFrom ofLine number lines := by
  induction lines generalizing number with
  | nil => rfl
  | cons line lines ih => rw [referencesFrom, findFrom, ih]

/-- The number of a line is all that its references have from the lines around. -/
theorem ofLine_eq_map (number other : Nat) (line : Text) :
    ofLine number line =
      (ofLine other line).map fun reference => { reference with line := number } := by
  rw [ofLine, ofLine, List.map_map]
  rfl

/-- Two lines that have the same references do so under each number. -/
theorem ofLine_renumber (number : Nat) (line other : Text) :
    ofLine number line = ofLine number other ↔ ofLine 0 line = ofLine 0 other := by
  constructor
  · intro hsame
    rw [ofLine_eq_map 0 number line, hsame, ← ofLine_eq_map]
  · intro hsame
    rw [ofLine_eq_map number 0 line, hsame, ← ofLine_eq_map]

/-- The search patterns that a line adds where none is known yet. -/
def patternsOn (placeholder : Char) (line : Text) : List Text :=
  (entries (pathAssignment line)).filter fun entry => entry.count placeholder = 1

/-- The search patterns of a text are those of its lines, each where it first appears. -/
theorem patterns_eq_eraseDups (placeholder : Char) (text : Text) :
    (declarations placeholder text).patterns =
      ((Text.lines text).flatMap (patternsOn placeholder)).eraseDups := by
  have hadded := Scope.foldl_new_eq_eraseDups
    (fun entry : Text => decide (entry.count placeholder = 1))
    ((Text.lines text).flatMap fun line => entries (pathAssignment line))
  rw [List.filter_flatMap] at hadded
  exact hadded

end Require

end LuaAssist

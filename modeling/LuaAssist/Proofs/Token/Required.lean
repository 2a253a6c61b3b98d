import LuaAssist.Proofs.Token.Marked
import Mathlib.Data.List.Induction
import Mathlib.Data.List.TakeWhile

/-!
# Which tokens are shown as required modules

The category in which a token of a line is shown, told by the tokens in front of it. A `require`
that starts its line makes a module reference of all names and strings behind it. On every other
line a string names a module if a `require` in front of it asks for one, and no `require` hides
another.
-/

namespace LuaAssist.Highlight

variable {token first : Token} {before behind tokens rest : List Token} {pending : Bool}

/-! ## What stands in front of a token -/

/-- A token that leaves the start of its line to the next one: a blank or the end of the line. -/
def isMargin (token : Token) : Bool := token.kind = .whitespace || token.kind = .lineEnd

/-- A `require` with nothing in front but the margin of its line. -/
def StartsLine (before : List Token) (token : Token) : Prop :=
  isRequire token ∧ ∀ earlier ∈ before, isMargin earlier

instance (before : List Token) (token : Token) : Decidable (StartsLine before token) :=
  inferInstanceAs (Decidable (_ ∧ _))

/-- A line that a `require` starts. -/
def IsReference (tokens : List Token) : Prop :=
  ∃ before token behind, tokens = before ++ token :: behind ∧ StartsLine before token

/-- Some `require` is followed by nothing but blanks, opening parentheses and strings. -/
def AsksForModule (before : List Token) : Prop :=
  ∃ front request between, before = front ++ request :: between ∧ isRequire request ∧
    ∀ token ∈ between, token.kind = .whitespace ∨ token.kind = .string ∨
      (token.kind = .operator ∧ token.text = "(".toList)

/-- The word that requires a module is a name. -/
theorem kind_of_isRequire (hrequire : isRequire token) : token.kind = .identifier := by
  rw [isRequire, Bool.and_eq_true] at hrequire
  exact of_decide_eq_true hrequire.1

/-- A `require` is no margin. -/
theorem isMargin_of_isRequire (hrequire : isRequire token) : isMargin token = false := by
  simp [isMargin, kind_of_isRequire hrequire]

/-- A line is a module reference if its first token behind the margin is a `require`. -/
theorem isReference_iff :
    IsReference tokens ↔ (tokens.dropWhile isMargin).head?.any isRequire = true := by
  constructor
  · rintro ⟨before, token, behind, rfl, hrequire, hmargin⟩
    have hstop : ¬isMargin token = true := by rw [isMargin_of_isRequire hrequire]; nofun
    rw [List.dropWhile_append_of_pos hmargin, List.dropWhile_cons_of_neg hstop]
    exact hrequire
  · intro hfirst
    cases hdrop : tokens.dropWhile isMargin with
    | nil => simp [hdrop] at hfirst
    | cons token behind =>
      rw [hdrop] at hfirst
      refine ⟨tokens.takeWhile isMargin, token, behind, ?_, hfirst,
        fun earlier hearlier => List.mem_takeWhile_imp hearlier⟩
      rw [← hdrop, List.takeWhile_append_dropWhile]

instance (tokens : List Token) : Decidable (IsReference tokens) :=
  decidable_of_iff _ isReference_iff.symm

/-- Nothing asks for a module at the start of a line. -/
theorem not_asksForModule_nil : ¬AsksForModule [] := by
  rintro ⟨front, request, between, heq, -⟩
  simp at heq

/-- Behind a token a module is asked for if the token does so, or if it may stand between its
module and a `require` in front. -/
theorem asksForModule_concat :
    AsksForModule (before ++ [token]) ↔
      isRequire token ∨ (token.kind = .string ∨ isBetween token) ∧ AsksForModule before := by
  have hbetween : (token.kind = .string ∨ isBetween token) ↔ (token.kind = .whitespace ∨
      token.kind = .string ∨ (token.kind = .operator ∧ token.text = "(".toList)) := by
    simp only [isBetween, Bool.or_eq_true, Bool.and_eq_true, decide_eq_true_eq]
    exact or_left_comm
  rw [hbetween]
  constructor
  · rintro ⟨front, request, between, heq, hrequest, hall⟩
    rcases List.eq_nil_or_concat between with rfl | ⟨between, last, rfl⟩
    · obtain ⟨-, hlast⟩ := List.append_inj' heq rfl
      rw [List.singleton_inj.mp hlast]
      exact Or.inl hrequest
    · rw [List.concat_eq_append, ← List.cons_append, ← List.append_assoc] at heq
      obtain ⟨hbefore, hlast⟩ := List.append_inj' heq rfl
      rw [List.singleton_inj.mp hlast]
      exact Or.inr ⟨hall last (by simp), front, request, between, hbefore, hrequest,
        fun other hother => hall other (by simp [hother])⟩
  · rintro (hrequire | ⟨hkind, front, request, between, rfl, hrequest, hall⟩)
    · exact ⟨before, token, [], rfl, hrequire, nofun⟩
    · refine ⟨front, request, between ++ [token], by simp, hrequest, fun other hother => ?_⟩
      rcases List.mem_append.mp hother with hother | hother
      · exact hall other hother
      · rw [List.mem_singleton.mp hother]
        exact hkind

/-- Whether a module is asked for is told by a walk over the tokens. -/
instance (before : List Token) : Decidable (AsksForModule before) :=
  decidable_of_iff (before.reverse.foldr (fun token pending =>
    isRequire token || (token.kind = .string || isBetween token) && pending) false = true) <| by
    induction before using List.reverseRecOn with
    | nil => simpa using not_asksForModule_nil
    | append_singleton before token ih =>
      rw [asksForModule_concat, List.reverse_concat, List.foldr_cons, ← ih]
      simp

/-- The category of a token on a line that a `require` starts. -/
def referenceKind (before : List Token) (token : Token) : TokenKind :=
  if StartsLine before token then .keyword
  else if token.kind = .string ∨ token.kind = .identifier then .requiredModule
  else token.kind

/-- The category of a token on any other line. -/
def callKind (before : List Token) (token : Token) : TokenKind :=
  if isRequire token then .keyword
  else if token.kind = .string ∧ AsksForModule before then .requiredModule
  else token.kind

/-- The category in which a token of a line is shown, by the tokens in front of it. -/
def shownKind (tokens before : List Token) (token : Token) : TokenKind :=
  if IsReference tokens then referenceKind before token else callKind before token

/-! ## Marking -/

/-- What the marking looks at is the line behind its margin. -/
theorem drop_margin (tokens : List Token) :
    tokens.drop (tokens.takeWhile fun token =>
      token.kind = .whitespace || token.kind = .lineEnd).length = tokens.dropWhile isMargin := by
  have hsplit := List.prefix_iff_eq_append.mp (List.takeWhile_prefix isMargin : _ <+: tokens)
  exact List.append_cancel_left (hsplit.trans List.takeWhile_append_dropWhile.symm)

/-- A `require` with nothing but margin in front becomes a keyword, and what stands behind it is
part of the reference. -/
theorem mark_reference (hmargin : ∀ token ∈ before, isMargin token)
    (hrequire : isRequire first) :
    mark (before ++ first :: behind) =
      before ++ recast first .keyword :: behind.map markReference := by
  have hstop : ¬isMargin first = true := by rw [isMargin_of_isRequire hrequire]; nofun
  have hfront : (before ++ first :: behind).takeWhile (fun token =>
      token.kind = .whitespace || token.kind = .lineEnd) = before := by
    change (before ++ first :: behind).takeWhile isMargin = before
    rw [List.takeWhile_append_of_pos hmargin, List.takeWhile_cons_of_neg hstop, List.append_nil]
  simp only [mark, hfront, List.drop_left, hrequire, if_true]

/-- Margins are shown as they are. -/
theorem referenceKind_of_isMargin (hmargin : isMargin token = true) (before : List Token) :
    referenceKind before token = token.kind := by
  have hrequire : ¬isRequire token = true := fun hrequire => by
    rw [isMargin_of_isRequire hrequire] at hmargin
    cases hmargin
  have hkind : ¬(token.kind = .string ∨ token.kind = .identifier) := by
    rw [isMargin, Bool.or_eq_true, decide_eq_true_eq, decide_eq_true_eq] at hmargin
    rcases hmargin with hkind | hkind <;> simp [hkind]
  rw [referenceKind, if_neg fun hstarts => hrequire hstarts.1, if_neg hkind]

/-- Behind a token that is no margin nothing starts the line. -/
theorem recast_referenceKind (hin : first ∈ before) (hfirst : isMargin first = false)
    (token : Token) : recast token (referenceKind before token) = markReference token := by
  have hlater : ¬StartsLine before token := fun hstarts => by
    have hmargin := hstarts.2 first hin
    rw [hfirst] at hmargin
    cases hmargin
  rw [referenceKind, if_neg hlater, markReference, apply_ite (recast token)]
  simp only [Bool.or_eq_true, decide_eq_true_eq]
  rfl

/-- On a line that a `require` starts, the tokens in front of it are its margin and all tokens
behind it belong to the reference. -/
theorem getElem?_mark_reference (hreference : IsReference tokens) (index : Nat) :
    (mark tokens)[index]? =
      tokens[index]?.map fun token => recast token (referenceKind (tokens.take index) token) := by
  obtain ⟨before, first, behind, rfl, hrequire, hmargin⟩ := hreference
  rw [mark_reference hmargin hrequire]
  rcases Nat.lt_trichotomy index before.length with hlt | rfl | hgt
  · rw [List.getElem?_append_left hlt, List.getElem?_append_left hlt,
      List.getElem?_eq_getElem hlt, Option.map_some,
      referenceKind_of_isMargin (hmargin _ (List.getElem_mem hlt))]
    rfl
  · rw [List.getElem?_append_right (Nat.le_refl _), List.getElem?_append_right (Nat.le_refl _),
      List.take_left, Nat.sub_self, List.getElem?_cons_zero, List.getElem?_cons_zero,
      Option.map_some, referenceKind, if_pos ⟨hrequire, hmargin⟩]
  · obtain ⟨further, rfl⟩ := Nat.exists_eq_add_of_lt hgt
    have hindex : before.length + further + 1 - before.length = further + 1 := by omega
    have hin : first ∈ (before ++ first :: behind).take (before.length + further + 1) := by
      rw [Nat.add_assoc, List.take_length_add_append]
      simp
    have hbehind := recast_referenceKind hin (isMargin_of_isRequire hrequire)
    rw [List.getElem?_append_right (by omega), List.getElem?_append_right (by omega), hindex,
      List.getElem?_cons_succ, List.getElem?_cons_succ, List.getElem?_map, funext hbehind]

/-- On a margin there is nothing to mark. -/
theorem markCalls_margin (hmargin : ∀ token ∈ tokens, isMargin token) :
    markCalls false tokens = tokens := by
  induction tokens with
  | nil => rfl
  | cons token rest ih =>
    obtain ⟨hhere, hrest⟩ := List.forall_mem_cons.mp hmargin
    have hrequire : ¬isRequire token = true := fun hrequire => by
      rw [isMargin_of_isRequire hrequire] at hhere
      cases hhere
    rw [markCalls, if_neg hrequire, Bool.and_false, if_neg Bool.false_ne_true, Bool.false_and,
      ih hrest]

/-- A line that is no module reference is marked by a walk from its start. -/
theorem mark_of_not_isReference (hreference : ¬IsReference tokens) :
    mark tokens = markCalls false tokens := by
  simp only [mark, drop_margin]
  cases hrest : tokens.dropWhile isMargin with
  | nil => exact (markCalls_margin (List.dropWhile_eq_nil_iff.mp hrest)).symm
  | cons first rest =>
    have hfirst : ¬isRequire first = true := by
      simpa [isReference_iff, hrest] using hreference
    exact if_neg hfirst

/-- One step of the walk over a line that is no module reference: the walk knows whether a module
is asked for in front of a token. -/
theorem markCalls_cons (hpending : pending = true ↔ AsksForModule before) (token : Token)
    (rest : List Token) :
    ∃ next, (next = true ↔ AsksForModule (before ++ [token])) ∧
      markCalls pending (token :: rest) = recast token (callKind before token) ::
        markCalls next rest := by
  have hnext : AsksForModule (before ++ [token]) ↔ _ := asksForModule_concat
  rw [markCalls, callKind]
  by_cases hrequire : isRequire token = true
  · rw [if_pos hrequire, if_pos hrequire]
    exact ⟨true, by simp [hnext, hrequire], rfl⟩
  rw [if_neg hrequire, if_neg hrequire]
  by_cases hmodule : token.kind = .string ∧ AsksForModule before
  · rw [if_pos hmodule, if_pos (by simp [hmodule.1, hpending.mpr hmodule.2])]
    exact ⟨true, by simp [hnext, hmodule], rfl⟩
  · rw [if_neg hmodule, if_neg (by simpa [hpending] using hmodule)]
    exact ⟨_, by simp [hnext, hrequire, ← hpending, and_comm], rfl⟩

/-- On a line that is no module reference every token is shown as the tokens in front of it
say. -/
theorem getElem?_markCalls (hpending : pending = true ↔ AsksForModule before) (index : Nat) :
    (markCalls pending rest)[index]? =
      rest[index]?.map fun token => recast token (callKind (before ++ rest.take index) token) := by
  induction rest generalizing before pending index with
  | nil => rfl
  | cons token rest ih =>
    obtain ⟨next, hnext, hmarked⟩ := markCalls_cons hpending token rest
    rw [hmarked]
    cases index with
    | zero => simp
    | succ index =>
      rw [List.getElem?_cons_succ, List.getElem?_cons_succ, ih hnext, List.take_succ_cons,
        List.append_assoc, List.singleton_append]

/-- Marking shows every token in the category that the tokens in front of it tell. -/
theorem getElem?_mark (tokens : List Token) (index : Nat) :
    (mark tokens)[index]? =
      tokens[index]?.map fun token =>
        recast token (shownKind tokens (tokens.take index) token) := by
  unfold shownKind
  by_cases hreference : IsReference tokens
  · simp only [if_pos hreference]
    exact getElem?_mark_reference hreference index
  · have hnone : false = true ↔ AsksForModule [] := by simpa using not_asksForModule_nil
    simp only [if_neg hreference]
    rw [mark_of_not_isReference hreference, getElem?_markCalls hnone, List.nil_append]

/-- The places of a line's tokens for display are those of its tokens. -/
theorem map_place_spansFrom {others : List Token} (start : Nat)
    (htexts : tokens.map Token.text = others.map Token.text) :
    (LineScan.spansFrom start tokens).map (fun span => (span.start, span.length)) =
      (LineScan.spansFrom start others).map fun span => (span.start, span.length) := by
  induction tokens generalizing start others with
  | nil => rw [List.map_eq_nil_iff.mp htexts.symm]
  | cons token tokens ih =>
    cases others with
    | nil => cases htexts
    | cons other others =>
      obtain ⟨htext, hrest⟩ := List.cons.inj htexts
      simp only [LineScan.spansFrom, List.map_cons, htext, ih _ hrest]

/-- A line for display has the places of its tokens and the same state behind it. Each token has
the category that the tokens in front of it tell: on a line that a `require` starts, that
`require` is a keyword and all strings and identifiers behind it are required modules; on every
other line each `require` is a keyword, and the strings for which a `require` asks are required
modules. All other tokens are as they were scanned. -/
theorem line_shows (text : Text) (state : LineState) :
    (line text state).state = (Lexer.scan text state).state ∧
      (line text state).spans.map (fun span => (span.start, span.length)) =
        (Lexer.scan text state).spans.map (fun span => (span.start, span.length)) ∧
      ∀ index, (line text state).tokens[index]? =
        (Lexer.scan text state).tokens[index]?.map fun token =>
          recast token (shownKind (Lexer.scan text state).tokens
            ((Lexer.scan text state).tokens.take index) token) :=
  ⟨rfl, map_place_spansFrom 0 (map_text_mark _), getElem?_mark _⟩

/-- A `require` whose module is in parentheses, one that no module follows, and one that asks for
two strings behind another. -/
example : (line "f(require (\"a\"), require x require \"b\" 'c')".toList .code).tokens.filterMap
    (fun token => if token.kind = .requiredModule then some token.text else none) =
      ["\"a\"".toList, "\"b\"".toList, "'c'".toList] := by
  decide +kernel

end LuaAssist.Highlight

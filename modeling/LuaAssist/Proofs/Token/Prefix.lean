import LuaAssist.Proofs.Token.OpenToken

/-!
# Tokens at the end of a front of a line

How the reading of one token changes when the line is cut off behind some front. A token that
ends inside the front is read the same. Of a token that goes beyond it, either all that is left
is again one token, or what is left is the beginning of a bracket or of an operator.
-/

namespace LuaAssist.Lexer

variable {memory : Memory} {c : Char} {front line : Text}

/-- A character that may stand in the beginning of a bracket or of an operator. -/
def isFragment (c : Char) : Bool := !isNameStart c && c ≠ ' ' && c ≠ '('

/-- What cutting a line off behind `front` does to the reading `whole` of a token that begins
directly before it. -/
inductive CutOff (front : Text) (cut whole : Reading) : Prop where
  | same (hinside : whole.more ≤ front.length) (hmore : cut.more = whole.more)
  | covers (hbeyond : front.length < whole.more) (hmore : cut.more = front.length)
  | fragment (hbeyond : front.length < whole.more)
      (hfragment : ∀ d ∈ front, isFragment d = true)

/-- A run of characters at the end of a front: it ends inside, or takes the rest of the front. -/
theorem takeWhile_of_front (test : Char → Bool) (hpre : front <+: line) :
    (line.takeWhile test).length ≤ front.length ∧
        front.takeWhile test = line.takeWhile test ∨
      front.length < (line.takeWhile test).length ∧ front.takeWhile test = front := by
  obtain ⟨behind, rfl⟩ := hpre
  rw [List.takeWhile_append]
  split
  · rename_i hwhole
    have hall : front.takeWhile test = front :=
      (List.takeWhile_prefix test).eq_of_length hwhole
    cases hrun : behind.takeWhile test with
    | nil => exact .inl ⟨by simp, by simpa using hall⟩
    | cons first run =>
      refine .inr ⟨?_, hall⟩
      rw [List.length_append, List.length_cons]
      omega
  · exact .inl ⟨(List.takeWhile_prefix test).length_le, rfl⟩

/-! ## Long brackets -/

/-- A front is long enough for a text that the line starts with, or a front of it. -/
theorem prefix_of_prefix_append {text behind : Text} (hpre : front <+: line)
    (hline : line = text ++ behind) :
    (∃ rest, front = text ++ rest) ∨ front.length < text.length ∧ front <+: text := by
  subst hline
  rcases List.prefix_or_prefix_of_prefix hpre (List.prefix_append text behind) with h | h
  · by_cases hlength : front.length < text.length
    · exact .inr ⟨hlength, h⟩
    · have heq := h.eq_of_length_le (Nat.le_of_not_lt hlength)
      exact .inl ⟨[], by simp [heq]⟩
  · obtain ⟨rest, hrest⟩ := h
    exact .inl ⟨rest, hrest.symm⟩

/-- A long bracket that opens in a front opens in the line. -/
theorem longOpen?_of_front {level : Nat} (hpre : front <+: line)
    (hopen : longOpen? front = some level) : longOpen? line = some level := by
  obtain ⟨body, rfl⟩ := longOpen?_eq_some.mp hopen
  obtain ⟨behind, rfl⟩ := hpre
  exact longOpen?_eq_some.mpr ⟨body ++ behind, by simp⟩

/-- A long bracket of the line opens in a front, or the front is part of its level. -/
theorem longOpen?_cut {level : Nat} (hpre : front <+: line)
    (hopen : longOpen? line = some level) :
    longOpen? front = some level ∨
      longOpen? front = none ∧ front.length ≤ level ∧ ∀ d ∈ front, d = '=' := by
  obtain ⟨body, hline⟩ := longOpen?_eq_some.mp hopen
  have hsplit : line = (List.replicate level '=' ++ ['[']) ++ body := by simp [hline]
  rcases prefix_of_prefix_append hpre hsplit with ⟨rest, hrest⟩ | ⟨hlength, hfront⟩
  · exact .inl (longOpen?_eq_some.mpr ⟨rest, by simp [hrest]⟩)
  · simp only [List.length_append, List.length_replicate, List.length_singleton] at hlength
    have hlevel : ∀ d ∈ front, d = '=' := by
      have hrun := List.prefix_of_prefix_length_le hfront (List.prefix_append _ _)
        (by simpa using Nat.le_of_lt_succ hlength)
      exact fun d hd => List.eq_of_mem_replicate (hrun.subset hd)
    refine .inr ⟨?_, Nat.le_of_lt_succ hlength, hlevel⟩
    rw [Option.eq_none_iff_forall_ne_some]
    intro other hother
    obtain ⟨behind, hbehind⟩ := longOpen?_eq_some.mp hother
    have hmem : '[' ∈ front := by simp [hbehind]
    exact absurd (hlevel _ hmem) (by decide)

/-- A closing long bracket takes at least its own characters. -/
theorem le_longClose? {level length : Nat} {text : Text}
    (hclose : longClose? level text = some length) : level + 2 ≤ length := by
  induction text generalizing length with
  | nil => cases hclose
  | cons c rest ih =>
    rw [longClose?] at hclose
    split at hclose
    · cases hclose
      exact Nat.le_refl _
    · obtain ⟨further, hfurther, rfl⟩ := Option.map_eq_some_iff.mp hclose
      exact Nat.le_succ_of_le (ih hfurther)

/-- A text that is too short has no closing long bracket. -/
theorem longClose?_of_short {level : Nat} {text : Text} (hshort : text.length < level + 2) :
    longClose? level text = none := by
  rw [Option.eq_none_iff_forall_ne_some]
  intro length hclose
  have hlow := le_longClose? hclose
  have hhigh := longClose?_le hclose
  omega

/-- What closes a long bracket in a front closes it in the line. -/
theorem longCloses_of_front {level : Nat} (hpre : front <+: line)
    (hcloses : longCloses level front = true) : longCloses level line = true := by
  obtain ⟨body, rfl⟩ := longCloses_iff.mp hcloses
  obtain ⟨behind, rfl⟩ := hpre
  exact longCloses_iff.mpr ⟨body ++ behind, by simp⟩

/-- What closes a long bracket in the line does so in any front that is long enough. -/
theorem longCloses_cut {level : Nat} (hpre : front <+: line)
    (hcloses : longCloses level line = true) :
    longCloses level front = true ↔ level + 2 ≤ front.length := by
  refine ⟨le_of_longCloses, fun hlength => ?_⟩
  obtain ⟨body, hbody⟩ := longCloses_iff.mp hcloses
  have hsplit : line = (']' :: (List.replicate level '=' ++ [']'])) ++ body := by simp [hbody]
  rcases prefix_of_prefix_append hpre hsplit with ⟨rest, hrest⟩ | ⟨hshort, -⟩
  · exact longCloses_iff.mpr ⟨rest, by simp [hrest]⟩
  · simp only [List.length_append, List.length_cons, List.length_replicate,
      List.length_nil] at hshort
    omega

/-- A long bracket closes in a front where it closes in the line, if that is inside. -/
theorem longClose?_of_front (level : Nat) (hpre : front <+: line) :
    longClose? level front =
      (longClose? level line).filter fun length => length ≤ front.length := by
  induction front generalizing line with
  | nil =>
    cases hclose : longClose? level line with
    | none => rfl
    | some length =>
      have hpos := longClose?_pos hclose
      rw [Option.filter_some, if_neg (by simpa using Nat.ne_of_gt hpos)]
      rfl
  | cons c front ih =>
    obtain ⟨behind, rfl⟩ := hpre
    have hwhole : c :: front <+: c :: front ++ behind := List.prefix_append _ _
    rw [List.cons_append, longClose?, longClose?, ← List.cons_append]
    by_cases hcloses : longCloses level (c :: front ++ behind) = true
    · rw [if_pos hcloses, Option.filter_some]
      by_cases hlength : level + 2 ≤ (c :: front).length
      · rw [if_pos ((longCloses_cut hwhole hcloses).mpr hlength), if_pos (by simpa using hlength)]
      · have hnone : longClose? level front = none :=
          longClose?_of_short (Nat.lt_of_succ_lt (Nat.lt_of_not_le hlength))
        rw [if_neg (mt (longCloses_cut hwhole hcloses).mp hlength), hnone,
          if_neg (by simpa using hlength)]
        rfl
    · rw [if_neg hcloses, if_neg (mt (longCloses_of_front hwhole) hcloses),
        ih (List.prefix_append front behind)]
      cases longClose? level (front ++ behind) with
      | none => rfl
      | some length =>
        simp only [Option.filter_some, Option.map_some, List.length_cons, Nat.add_le_add_iff_right]
        split <;> rfl

/-! ## Short tokens -/

/-- A quoted string lies inside the text in which it is read. -/
theorem quotedLength_le (quote : Char) (text : Text) : quotedLength quote text ≤ text.length := by
  fun_induction quotedLength quote text <;>
    simp only [List.length_cons, List.length_nil] at * <;> omega

/-- A quoted string takes no less for what follows. -/
theorem quotedLength_le_append (quote : Char) (text next : Text) :
    quotedLength quote text ≤ quotedLength quote (text ++ next) := by
  fun_induction quotedLength quote text with
  | case1 => exact Nat.zero_le _
  | case2 escaped rest ih =>
    simp only [List.cons_append, quotedLength]
    omega
  | case3 rest hplain =>
    by_cases hescape : quote = '\\' ∧ rest ++ next ≠ []
    · obtain ⟨rfl, hne⟩ := hescape
      obtain ⟨escaped, behind, hbehind⟩ := List.exists_cons_of_ne_nil hne
      rw [List.cons_append, hbehind, quotedLength]
      omega
    · rw [List.cons_append, quotedLength_cons fun h => Classical.not_not.mp fun hne =>
        hescape ⟨h, hne⟩, if_pos rfl]
  | case4 c rest hplain hother ih =>
    by_cases hescape : c = '\\' ∧ rest ++ next ≠ []
    · obtain ⟨rfl, hne⟩ := hescape
      cases rest with
      | nil =>
        obtain ⟨escaped, behind, hbehind⟩ := List.exists_cons_of_ne_nil hne
        rw [List.cons_append, hbehind, quotedLength, quotedLength]
        exact Nat.le_add_left 1 _
      | cons escaped behind => exact (hplain escaped behind rfl rfl).elim
    · rw [List.cons_append, quotedLength_cons fun h => Classical.not_not.mp fun hne =>
        hescape ⟨h, hne⟩, if_neg hother]
      exact Nat.succ_le_succ ih

/-- A numeral takes no less for what follows. -/
theorem numeralLength_le_append (hex : Bool) (text next : Text) :
    numeralLength hex text ≤ numeralLength hex (text ++ next) := by
  fun_induction numeralLength hex text with
  | case1 => exact Nat.zero_le _
  | case2 c hpart =>
    rw [Bool.or_eq_true] at hpart
    rw [List.cons_append, numeralLength_cons]
    split
    · split <;> exact Nat.le_add_left 1 _
    · rename_i hmark
      rw [if_pos (hpart.resolve_left hmark)]
      exact Nat.le_add_left 1 _
  | case3 c hpart => exact Nat.zero_le _
  | case4 c d rest hmark hsign ih =>
    simp only [List.cons_append, numeralLength, hmark, hsign, if_true]
    exact Nat.add_le_add_right ih 2
  | case5 c d rest hmark hsign ih =>
    have hsign : ¬ (d :: rest ++ next).head?.any isSign = true := by simpa [isSign] using hsign
    rw [List.cons_append, numeralLength_cons hex c (d :: rest ++ next), if_pos hmark, if_neg hsign]
    exact Nat.succ_le_succ ih
  | case6 c d rest hmark hpart ih =>
    rw [List.cons_append, numeralLength_cons hex c (d :: rest ++ next), if_neg hmark, if_pos hpart]
    exact Nat.succ_le_succ ih
  | case7 c d rest hmark hpart => exact Nat.zero_le _

/-- An operator of the line starts a front that is long enough for it. -/
theorem operatorAt?_of_front {op : Text} (hpre : front <+: line)
    (hop : operatorAt? line = some op) (hlength : op.length ≤ front.length) :
    operatorAt? front = some op := by
  unfold operatorAt? at hop ⊢
  generalize operators = table at hop ⊢
  induction table with
  | nil => cases hop
  | cons first table ih =>
    rw [List.find?_cons] at hop ⊢
    cases hfirst : List.isPrefixOf first line with
    | true =>
      rw [hfirst] at hop
      cases hop
      have hcut : List.isPrefixOf op front = true := List.isPrefixOf_iff_prefix.mpr
        (List.prefix_of_prefix_length_le (List.isPrefixOf_iff_prefix.mp hfirst) hpre hlength)
      rw [hcut]
    | false =>
      rw [hfirst] at hop
      have hcut : List.isPrefixOf first front = false := by
        rw [Bool.eq_false_iff]
        intro h
        rw [List.isPrefixOf_iff_prefix.mpr ((List.isPrefixOf_iff_prefix.mp h).trans hpre)]
          at hfirst
        cases hfirst
      rw [hcut]
      exact ih hop

/-- Where no operator starts the line, none starts a front of it. -/
theorem operatorAt?_eq_none_of_front (hpre : front <+: line) (hop : operatorAt? line = none) :
    operatorAt? front = none := by
  rw [operatorAt?, List.find?_eq_none] at hop ⊢
  intro op hmem h
  exact hop op hmem (List.isPrefixOf_iff_prefix.mpr
    ((List.isPrefixOf_iff_prefix.mp h).trans hpre))

/-- What follows the first character of an operator is a fragment. -/
theorem isFragment_of_operator : ∀ op ∈ operators, ∀ d ∈ op.tail, isFragment d = true := by
  decide +kernel

/-! ## Tokens -/

/-- The letters of ASCII lie between the first capital and the last small one. -/
theorem bounds_of_isAlpha {c : Char} (hc : c.isAlpha = true) :
    'A'.toNat ≤ c.toNat ∧ c.toNat ≤ 'z'.toNat := by
  rcases (Bool.or_eq_true _ _).mp hc with hupper | hlower
  · obtain ⟨hlow, hhigh⟩ := of_decide_eq_true hupper
    exact ⟨UInt32.le_iff_toNat_le.mp hlow, (UInt32.le_iff_toNat_le.mp hhigh).trans (by decide)⟩
  · obtain ⟨hlow, hhigh⟩ := (Bool.and_eq_true _ _).mp hlower
    exact ⟨Nat.le_trans (by decide) (UInt32.le_iff_toNat_le.mp (of_decide_eq_true hlow)),
      UInt32.le_iff_toNat_le.mp (of_decide_eq_true hhigh)⟩

/-- A name starts no other token. -/
theorem read_of_isNameStart (memory : Memory) (hc : isNameStart c = true) (rest : Text) :
    read memory c rest = .closed (memory.nameKind (c :: rest.takeWhile isNamePart))
      (rest.takeWhile isNamePart).length := by
  have hne : ∀ mark, isNameStart mark = false → c ≠ mark := by
    rintro mark hmark rfl
    rw [hmark] at hc
    cases hc
  have hspace : isSpace c = false := by
    simp [isSpace, hne _ (by decide : isNameStart ' ' = false),
      hne _ (by decide : isNameStart '\t' = false), hne _ (by decide : isNameStart '\n' = false),
      hne _ (by decide : isNameStart '\r' = false), hne _ (by decide : isNameStart '\x0c' = false)]
  have hdigit : c.isDigit = false := by
    have hstart : c.isAlpha = true ∨ c = '_' := by simpa [isNameStart] using hc
    rcases hstart with hletter | rfl
    · simp only [Char.isDigit, Bool.and_eq_false_iff, decide_eq_false_iff_not,
        UInt32.le_iff_toNat_le]
      exact .inr (Nat.not_le_of_lt (Nat.lt_of_lt_of_le (by decide) (bounds_of_isAlpha hletter).1))
    · decide
  simp [read, hspace, hdigit, hc, hne _ (by decide : isNameStart '-' = false),
    hne _ (by decide : isNameStart '[' = false), hne _ (by decide : isNameStart '"' = false),
    hne _ (by decide : isNameStart '\'' = false), hne _ (by decide : isNameStart '.' = false)]

/-- The categories of names. -/
theorem nameKind_mem (memory : Memory) (word : Text) :
    memory.nameKind word ∈
      [TokenKind.keyword, .metamethod, .localName, .field, .identifier] := by
  unfold Memory.nameKind
  split
  · decide
  split
  · decide
  split
  · decide
  split <;> decide

/-- The forms that a token can have, by its category. -/
inductive Formed (memory : Memory) (c : Char) (rest : Text) : Reading → Prop where
  | blank (hc : isSpace c = true) :
    Formed memory c rest (.closed .whitespace (rest.takeWhile isSpace).length)
  | enclosed {reading : Reading}
      (hkind : reading.kind ∈ [.comment, .blockComment, .string, .number]) :
    Formed memory c rest reading
  | name (hc : isNameStart c = true) :
    Formed memory c rest (.closed (memory.nameKind (c :: rest.takeWhile isNamePart))
      (rest.takeWhile isNamePart).length)
  | operator {op : Text} (hop : operatorAt? (c :: rest) = some op) :
    Formed memory c rest (.closed .operator (op.length - 1))
  | single : Formed memory c rest (.closed .identifier 0)

/-- Every token has one of the forms. -/
theorem read_formed (memory : Memory) (c : Char) (rest : Text) :
    Formed memory c rest (read memory c rest) := by
  have hlong : ∀ (form : LongForm) (level skip : Nat) (text : Text),
      (readLong form level skip text).kind = form.kind := by
    intro form level skip text
    unfold readLong
    split <;> rfl
  have hcomment : (readComment rest).kind ∈ [.comment, .blockComment, .string, .number] := by
    unfold readComment
    split
    · split
      · rw [hlong]
        decide
      · simp [Reading.closed]
    · simp [Reading.closed]
  unfold read
  split
  · exact .blank ‹_›
  split
  · exact .enclosed hcomment
  split
  · exact .enclosed (by rw [hlong]; decide)
  split
  · exact .enclosed (by simp [Reading.closed])
  split
  · split <;> exact .enclosed (by simp [Reading.closed])
  split
  · exact .name ‹_›
  split
  · exact .operator ‹_›
  · exact .single

/-- A token that only grows with what follows, and that ends where it is read: cutting it off
leaves the rest of the front. -/
theorem CutOff.of_growing {cut whole : Reading} (hle : cut.more ≤ front.length)
    (hinside : cut.more < front.length → whole.more = cut.more) (hgrows : cut.more ≤ whole.more) :
    CutOff front cut whole := by
  rcases Nat.lt_or_ge cut.more front.length with hlt | hge
  · have heq := hinside hlt
    exact .same (by omega) heq.symm
  · by_cases hbeyond : front.length < whole.more
    · exact .covers hbeyond (by omega)
    · exact .same (by omega) (by omega)

/-- A run of characters is cut off to a run. -/
theorem CutOff.of_takeWhile (test : Char → Bool) (kind other : TokenKind)
    (hpre : front <+: line) :
    CutOff front (.closed kind (front.takeWhile test).length)
      (.closed other (line.takeWhile test).length) := by
  rcases takeWhile_of_front test hpre with ⟨hle, heq⟩ | ⟨hlt, heq⟩
  · exact .same hle (congrArg List.length heq)
  · exact .covers hlt (congrArg List.length heq)

/-- A long token whose bracket lies inside is cut off to an open one. -/
theorem readLong_cutOff (form : LongForm) (level : Nat) {skip : Nat} (hskip : skip ≤ front.length)
    (hpre : front <+: line) :
    CutOff front (readLong form level skip front) (readLong form level skip line) := by
  have hlength := hpre.length_le
  have hclose := longClose?_of_front level (hpre.drop skip)
  rw [List.length_drop] at hclose
  unfold readLong
  rw [hclose]
  cases longClose? level (line.drop skip) with
  | none =>
    simp only [Option.filter_none]
    by_cases heq : line.length ≤ front.length
    · exact .same heq (Nat.le_antisymm hlength heq)
    · exact .covers (Nat.lt_of_not_le heq) rfl
  | some length =>
    rw [Option.filter_some]
    by_cases hinside : length ≤ front.length - skip
    · simp only [hinside, decide_true, if_true]
      exact .same (by simp only [Reading.closed]; omega) rfl
    · simp only [hinside, decide_false, Bool.false_eq_true, if_false]
      exact .covers (by simp only [Reading.closed]; omega) rfl

/-- A comment over the whole rest is cut off to one. -/
theorem CutOff.of_whole {cut whole : Reading} (hpre : front <+: line)
    (hcut : cut.more = front.length) (hwhole : whole.more = line.length) :
    CutOff front cut whole := by
  have hlength := hpre.length_le
  exact .of_growing (by omega) (by omega) (by omega)

/-- A comment is cut off to a comment. -/
theorem readComment_cutOff (hpre : front <+: line) :
    CutOff ('-' :: front) (readComment ('-' :: front)) (readComment ('-' :: line)) := by
  have hdash : '-' :: front <+: '-' :: line := List.cons_prefix_cons.mpr ⟨rfl, hpre⟩
  by_cases hopen : ∃ body level, line = '[' :: body ∧ longOpen? body = some level
  · obtain ⟨body, level, rfl, hlevel⟩ := hopen
    have hlong : level + 3 ≤ (readComment ('-' :: '[' :: body)).more := by
      have hbody := lt_of_longOpen? hlevel
      rw [readComment_of_longOpen? hlevel, readLong]
      split
      · exact Nat.le_add_right _ _
      · simp only [List.length_cons]
        omega
    cases front with
    | nil => exact .covers (by simp only [List.length_cons, List.length_nil]; omega) rfl
    | cons d front =>
      obtain ⟨rfl, hfront⟩ := List.cons_prefix_cons.mp hpre
      rcases longOpen?_cut hfront hlevel with hcut | ⟨hcut, hshort, -⟩
      · have hle := lt_of_longOpen? hcut
        rw [readComment_of_longOpen? hlevel, readComment_of_longOpen? hcut]
        exact readLong_cutOff _ _ (by simp only [List.length_cons]; omega) hdash
      · refine .covers (by simp only [List.length_cons]; omega) ?_
        rw [readComment_line]
        · rfl
        · intro other hother
          rw [← (List.cons.inj hother).2, hcut]
  · have hline : ∀ body, line = '[' :: body → longOpen? body = none := fun body hbody =>
      Option.eq_none_iff_forall_ne_some.mpr fun level hlevel => hopen ⟨body, level, hbody, hlevel⟩
    have hcut : ∀ body, front = '[' :: body → longOpen? body = none := by
      rintro body rfl
      obtain ⟨behind, hbehind⟩ := hpre
      rw [Option.eq_none_iff_forall_ne_some]
      intro level hlevel
      have hnone := hline (body ++ behind) (by rw [← hbehind, List.cons_append])
      rw [longOpen?_of_front (List.prefix_append _ _) hlevel] at hnone
      cases hnone
    rw [readComment_line hline, readComment_line hcut]
    exact .of_whole hdash rfl rfl

/-- An operator lies inside the text in which it is read. -/
theorem operatorAt?_le {op text : Text} (hop : operatorAt? text = some op) :
    op.length ≤ text.length := by
  rw [operatorAt?] at hop
  have hpre := List.find?_some hop
  exact (List.isPrefixOf_iff_prefix.mp hpre).length_le

/-- A long token lies inside the text in which it is read. -/
theorem readLong_more_le (form : LongForm) (level : Nat) {skip : Nat} {rest : Text}
    (hskip : skip ≤ rest.length) : (readLong form level skip rest).more ≤ rest.length := by
  unfold readLong
  split
  · rename_i length hclose
    have hle := longClose?_le hclose
    rw [List.length_drop] at hle
    simp only [Reading.closed]
    omega
  · exact Nat.le_refl _

/-- A comment lies inside the text in which it is read. -/
theorem readComment_more_le (rest : Text) :
    (readComment ('-' :: rest)).more ≤ ('-' :: rest).length := by
  by_cases hopen : ∃ body level, rest = '[' :: body ∧ longOpen? body = some level
  · obtain ⟨body, level, rfl, hlevel⟩ := hopen
    have hle := lt_of_longOpen? hlevel
    rw [readComment_of_longOpen? hlevel]
    exact readLong_more_le _ _ (by simp only [List.length_cons]; omega)
  · rw [readComment_line fun body hbody => Option.eq_none_iff_forall_ne_some.mpr
      fun level hlevel => hopen ⟨body, level, hbody, hlevel⟩]
    exact Nat.le_refl _

/-- No token goes beyond the end of the line. -/
theorem read_more_le (memory : Memory) (c : Char) (rest : Text) :
    (read memory c rest).more ≤ rest.length := by
  unfold read
  split
  · exact (List.takeWhile_prefix _).length_le
  split
  · rename_i hcomment
    simp only [Bool.and_eq_true, decide_eq_true_eq] at hcomment
    obtain ⟨behind, rfl⟩ := List.head?_eq_some_iff.mp hcomment.2
    exact readComment_more_le behind
  split
  · rename_i level hlevel
    split at hlevel
    · exact readLong_more_le _ _ (lt_of_longOpen? hlevel)
    · cases hlevel
  split
  · exact quotedLength_le _ _
  split
  · split
    · rename_i hmark
      simp only [Bool.and_eq_true] at hmark
      cases rest with
      | nil => cases hmark.2
      | cons mark rest => exact Nat.succ_le_succ (numeralLength_le true rest)
    · exact numeralLength_le _ _
  split
  · exact (List.takeWhile_prefix _).length_le
  split
  · rename_i op hop
    have hle := operatorAt?_le hop
    simp only [Reading.closed, List.length_cons] at hle ⊢
    omega
  · exact Nat.zero_le _

/-- A quoted string is cut off to one that takes the rest. -/
theorem quoted_cutOff (quote : Char) (kind : TokenKind) (hpre : front <+: line) :
    CutOff front (.closed kind (quotedLength quote front))
      (.closed kind (quotedLength quote line)) := by
  obtain ⟨behind, rfl⟩ := hpre
  exact .of_growing (quotedLength_le _ _) quotedLength_append (quotedLength_le_append _ _ _)

/-- A numeral is cut off to a numeral, of which some digits may have been read before. -/
theorem numeral_cutOff (hex : Bool) (before : Text) (hpre : front <+: line) :
    CutOff (before ++ front) (.closed .number (numeralLength hex front + before.length))
      (.closed .number (numeralLength hex line + before.length)) := by
  obtain ⟨behind, rfl⟩ := hpre
  have hle := numeralLength_le hex front
  have hgrows := numeralLength_le_append hex front behind
  refine .of_growing ?_ (fun hlt => ?_) (Nat.add_le_add_right hgrows _)
  · simp only [Reading.closed, List.length_append]
    omega
  · simp only [Reading.closed, List.length_append] at hlt ⊢
    rw [numeralLength_append (by omega)]

/-- An operator or a single character is cut off to the beginning of an operator. -/
theorem operator_cutOff (hpre : front <+: line) :
    CutOff front
      (match operatorAt? (c :: front) with
        | some op => .closed .operator (op.length - 1)
        | none => .closed .identifier 0)
      (match operatorAt? (c :: line) with
        | some op => .closed .operator (op.length - 1)
        | none => .closed .identifier 0) := by
  have hboth : c :: front <+: c :: line := List.cons_prefix_cons.mpr ⟨rfl, hpre⟩
  cases hop : operatorAt? (c :: line) with
  | none =>
    rw [operatorAt?_eq_none_of_front hboth hop]
    exact .same (Nat.zero_le _) rfl
  | some op =>
    by_cases hinside : op.length ≤ (c :: front).length
    · rw [operatorAt?_of_front hboth hop hinside]
      simp only [List.length_cons] at hinside
      exact .same (by simp only [Reading.closed]; omega) rfl
    · refine .fragment (by simp only [Reading.closed, List.length_cons] at hinside ⊢; omega) ?_
      rw [operatorAt?] at hop
      have hstarts := List.find?_some hop
      have hmem := List.mem_of_find?_eq_some hop
      have hfront := List.prefix_of_prefix_length_le hboth
        (List.isPrefixOf_iff_prefix.mp hstarts) (Nat.le_of_not_le hinside)
      intro d hd
      cases op with
      | nil => simp at hinside
      | cons first tail =>
        exact isFragment_of_operator _ hmem d ((List.cons_prefix_cons.mp hfront).2.subset hd)

/-- A bracket that begins a long string in the line, cut off in a front. -/
theorem bracket_cutOff (memory : Memory) {level : Nat} (hpre : front <+: line)
    (hlevel : longOpen? line = some level) :
    CutOff front (read memory '[' front) (read memory '[' line) := by
  have hread : ∀ rest : Text, longOpen? rest = some level →
      read memory '[' rest = readLong .string level (level + 1) rest := by
    intro rest hopen
    simp [read, hopen, isSpace]
  rw [hread _ hlevel]
  rcases longOpen?_cut hpre hlevel with hcut | ⟨-, hshort, hall⟩
  · rw [hread _ hcut]
    exact readLong_cutOff _ _ (lt_of_longOpen? hcut) hpre
  · have hopen := lt_of_longOpen? hlevel
    refine .fragment ?_ fun e he => hall e he ▸ by decide
    unfold readLong
    split
    · simp only [Reading.closed]
      omega
    · exact Nat.lt_of_le_of_lt hshort hopen

/-- A token that starts no name, read in a front of a line. -/
theorem read_cutOff (memory : Memory) (hc : isNameStart c = false) (hpre : front <+: line) :
    CutOff front (read memory c front) (read memory c line) := by
  cases front with
  | nil =>
    have hmore := Nat.le_zero.mp (read_more_le memory c [])
    exact .of_growing (by simp [hmore]) (by simp) (by simp [hmore])
  | cons d front =>
    obtain ⟨line, rfl⟩ : ∃ tail, line = d :: tail := by
      obtain ⟨behind, rfl⟩ := hpre
      exact ⟨_, rfl⟩
    have hfront := (List.cons_prefix_cons.mp hpre).2
    -- A front may end inside the level of a long bracket; then it is read as something else.
    by_cases hbracket : c = '[' ∧ ∃ level, longOpen? (d :: line) = some level
    · obtain ⟨rfl, level, hlevel⟩ := hbracket
      exact bracket_cutOff memory hpre hlevel
    · have hnone : ∀ rest, d :: rest <+: d :: line →
          (if c = '[' then longOpen? (d :: rest) else none) = none := by
        intro rest hrest
        split
        · rename_i hc
          rw [Option.eq_none_iff_forall_ne_some]
          exact fun level hlevel => hbracket ⟨hc, level, longOpen?_of_front hrest hlevel⟩
        · rfl
      have hdash : ∀ rest : Text, decide ((d :: rest).head? = some '-') = decide (d = '-') :=
        fun rest => by simp
      unfold read
      rw [hnone _ List.prefix_rfl, hnone _ hpre, hdash, hdash]
      simp only [List.head?_cons, Option.any_some, List.drop_succ_cons, List.drop_zero, hc,
        Bool.false_eq_true, if_false]
      split
      · exact .of_takeWhile isSpace _ _ hpre
      split
      · rename_i hcomment
        simp only [Bool.and_eq_true, decide_eq_true_eq] at hcomment
        rw [hcomment.2]
        exact readComment_cutOff hfront
      split
      · exact quoted_cutOff _ _ hpre
      split
      · split
        · exact numeral_cutOff true [d] hfront
        · exact numeral_cutOff false [] hpre
      · exact operator_cutOff hpre

end LuaAssist.Lexer

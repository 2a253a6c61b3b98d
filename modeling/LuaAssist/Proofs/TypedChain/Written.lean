import LuaAssist.TypedChain
import LuaAssist.Proofs.Text.Names
import LuaAssist.Proofs.Text.Trim
import Mathlib.Data.List.Induction
import Mathlib.Data.List.TakeWhile

/-!
# Chains as they are written

A chain is written as names with a point or a colon behind each of them. Blanks can stand around
these signs, and the arguments of a call in front of them. Read from its end, the chain gives its
names back, as long as it begins where it is written.
-/

namespace LuaAssist.TypedChain

variable {front before left name call inner : Text} {depth offset : Nat}

/-! ## Links of a chain -/

/-- A name that is read in a chain: characters of identifiers, of which the first is no digit. -/
structure IsSegment (name : Text) : Prop where
  ne_nil : name ≠ []
  parts : ∀ c ∈ name, Text.isIdentifierPart c = true
  starts : name.head?.any Char.isDigit = false

/-- A point or a colon, with blanks around it. -/
structure Joint where
  front : Text
  sign : Char
  behind : Text
  isBlank_front : ∀ c ∈ front, Text.isBlank c = true
  isSeparator : sign = '.' ∨ sign = ':'
  isBlank_behind : ∀ c ∈ behind, Text.isBlank c = true

/-- The sign as it is written. -/
def Joint.text (joint : Joint) : Text := joint.front ++ joint.sign :: joint.behind

/-- A text whose parentheses are properly nested. Other brackets do not matter. -/
inductive Parenthesized : Text → Prop where
  | nil : Parenthesized []
  | plain {c : Char} {rest : Text} (hopen : c ≠ '(') (hclose : c ≠ ')')
      (hrest : Parenthesized rest) : Parenthesized (c :: rest)
  | group {inner rest : Text} (hinner : Parenthesized inner) (hrest : Parenthesized rest) :
      Parenthesized ('(' :: (inner ++ ')' :: rest))

/-- What can stand directly behind a name: nothing, or the arguments of a call. -/
inductive IsCall : Text → Prop where
  | none : IsCall []
  | group {blanks inner : Text} (hblanks : ∀ c ∈ blanks, Text.isBlank c = true)
      (hinner : Parenthesized inner) : IsCall (blanks ++ '(' :: (inner ++ [')']))

/-- A name of a chain with all that stands behind it up to the next one. -/
structure Link where
  name : Text
  /-- The arguments with which it is called, if it is. -/
  call : Text
  joint : Joint
  isSegment : IsSegment name
  isCall : IsCall call

/-- The link as it is written. -/
def Link.text (link : Link) : Text := link.name ++ (link.call ++ link.joint.text)

/-- The links of a chain as they are written. -/
def written (links : List Link) : Text := links.flatMap Link.text

/-- A chain begins behind the text, which ends neither within a name nor with a point or a colon
behind one. Two points are the operator that joins strings. -/
structure BeginsBehind (front : Text) : Prop where
  name : ∀ c ∈ front.getLast?, Text.isIdentifierPart c = false
  separator : ['.', '.'] <:+ Text.trimEnd front ∨
    ∀ c ∈ (Text.trimEnd front).getLast?, c ≠ '.' ∧ c ≠ ':'

/-! ## One name to the left -/

/-- A point ends an identifier. -/
theorem isIdentifierPart_point : Text.isIdentifierPart '.' = false := by
  decide +kernel

/-- A sign between names is no character of a name and not blank. -/
theorem Joint.sign_spec (joint : Joint) :
    Text.isIdentifierPart joint.sign = false ∧ Text.isBlank joint.sign = false := by
  rcases joint.isSeparator with hsign | hsign <;> rw [hsign] <;> decide +kernel

/-- No name ends with a sign or with the blanks behind it. -/
theorem Joint.head?_reverse (joint : Joint) (left : Text) :
    ∀ c ∈ (joint.text.reverse ++ left).head?, Text.isIdentifierPart c = false := by
  intro c hc
  rcases List.eq_nil_or_concat joint.behind with hbehind | ⟨blanks, blank, hbehind⟩
  · obtain rfl : joint.sign = c := by simpa [Joint.text, hbehind] using hc
    exact joint.sign_spec.1
  · obtain rfl : blank = c := by simpa [Joint.text, hbehind] using hc
    exact Text.isIdentifierPart_of_isBlank (joint.isBlank_behind blank (by simp [hbehind]))

/-- Leftwards over the blanks behind it a sign is found. -/
theorem Joint.trimStart_reverse (joint : Joint) (left : Text) :
    Text.trimStart (joint.text.reverse ++ left) =
      joint.sign :: (joint.front.reverse ++ left) := by
  have hbehind : ∀ c ∈ joint.behind.reverse, Text.isBlank c = true := by
    simpa using joint.isBlank_behind
  have hreverse : joint.text.reverse ++ left =
      joint.behind.reverse ++ (joint.sign :: (joint.front.reverse ++ left)) := by
    simp [Joint.text]
  rw [hreverse, Text.trimStart, List.dropWhile_append_of_pos hbehind,
    List.dropWhile_cons_of_neg (by simp [joint.sign_spec.2])]

/-- Inside of a group nested parentheses do not close it. -/
theorem beforeGroup?_parenthesized (hinner : Parenthesized inner) :
    beforeGroup? (depth + 1) (inner.reverse ++ left) = beforeGroup? (depth + 1) left := by
  induction hinner generalizing depth left with
  | nil => rfl
  | plain hopen hclose _ ih =>
    rw [List.reverse_cons, List.append_assoc, List.singleton_append, ih]
    simp [beforeGroup?, hopen, hclose]
  | @group inner rest _ _ ihinner ihrest =>
    have hreverse : ('(' :: (inner ++ ')' :: rest)).reverse ++ left =
        rest.reverse ++ (')' :: (inner.reverse ++ '(' :: left)) := by
      simp
    rw [hreverse, ihrest, beforeGroup?, if_pos rfl, ihinner, beforeGroup?, if_neg (by decide),
      if_pos rfl, if_neg (by omega), Nat.add_sub_cancel]

/-- A group ends at the parenthesis that opens it. -/
theorem beforeGroup?_group (hinner : Parenthesized inner) (left : Text) :
    beforeGroup? 0 (')' :: (inner.reverse ++ '(' :: left)) = some left := by
  rw [beforeGroup?, if_pos rfl, beforeGroup?_parenthesized hinner, beforeGroup?,
    if_neg (by decide), if_pos rfl, if_pos (by decide)]

/-- To the left of its end a run of name characters goes as far as its first character. -/
theorem takeWhile_reverse {run : Text} (hrun : ∀ c ∈ run, Text.isIdentifierPart c = true)
    (hbefore : ∀ c ∈ before.head?, Text.isIdentifierPart c = false) :
    (run.reverse ++ before).takeWhile Text.isIdentifierPart = run.reverse := by
  have hstop : before.takeWhile Text.isIdentifierPart = [] := by
    cases before with
    | nil => rfl
    | cons c before => exact List.takeWhile_cons_of_neg (by simp [hbefore c rfl])
  rw [List.takeWhile_append_of_pos fun c hc => hrun c (List.mem_reverse.mp hc), hstop,
    List.append_nil]

/-- A name ends with neither a blank nor a parenthesis. -/
theorem IsSegment.head?_reverse (hname : IsSegment name) (before : Text) :
    Text.trimStart (name.reverse ++ before) = name.reverse ++ before ∧
      (name.reverse ++ before).head? ≠ some ')' := by
  obtain ⟨front, last, rfl⟩ : ∃ front last, name = front ++ [last] :=
    ⟨_, _, (List.dropLast_concat_getLast hname.ne_nil).symm⟩
  have hlast := hname.parts last (by simp)
  have hblank : Text.isBlank last = false := Text.isBlank_of_isIdentifierPart hlast
  constructor
  · simp [Text.trimStart, hblank]
  · rw [List.reverse_append, List.reverse_singleton, List.singleton_append, List.cons_append,
      List.head?_cons]
    rintro ⟨⟩
    exact absurd hlast (by decide +kernel)

/-- Left of a sign stands the name, in front of the arguments with which it is called. -/
theorem beforeSeparator?_link (link : Link) (before : Text) :
    beforeSeparator? (link.text.reverse ++ before) = some (link.name.reverse ++ before) := by
  obtain ⟨name, call, joint, hname, hcall⟩ := link
  obtain ⟨htrim, hparen⟩ := hname.head?_reverse before
  have hblanks : ∀ c ∈ joint.front.reverse, Text.isBlank c = true := by
    simpa using joint.isBlank_front
  have hsign : (joint.sign = '.' || joint.sign = ':') = true := by
    simpa using joint.isSeparator
  have hreverse : (name ++ (call ++ joint.text)).reverse ++ before =
      joint.text.reverse ++ (call.reverse ++ (name.reverse ++ before)) := by
    simp
  rw [Link.text, hreverse, beforeSeparator?, joint.trimStart_reverse]
  simp only [hsign, if_true]
  rw [Text.trimStart, List.dropWhile_append_of_pos hblanks, ← Text.trimStart]
  cases hcall with
  | none => rw [List.reverse_nil, List.nil_append, htrim, if_neg hparen]
  | @group blanks inner hblanks hinner =>
    have hgroup : (blanks ++ '(' :: (inner ++ [')'])).reverse ++ (name.reverse ++ before) =
        ')' :: (inner.reverse ++ '(' :: (blanks.reverse ++ (name.reverse ++ before))) := by
      simp
    have hsolid : Text.trimStart
        (')' :: (inner.reverse ++ '(' :: (blanks.reverse ++ (name.reverse ++ before)))) =
        ')' :: (inner.reverse ++ '(' :: (blanks.reverse ++ (name.reverse ++ before))) :=
      List.dropWhile_cons_of_neg (by decide)
    rw [hgroup, hsolid, List.head?_cons, if_pos rfl, beforeGroup?_group hinner, Option.map_some,
      Text.trimStart, List.dropWhile_append_of_pos (by simpa using hblanks), ← Text.trimStart,
      htrim]

/-- The name of a link is read, if it is written whole. -/
theorem nameLeft?_link (link : Link)
    (hbefore : ∀ c ∈ before.head?, Text.isIdentifierPart c = false) :
    nameLeft? (link.text.reverse ++ before) = some (link.name, before) := by
  have hdigit : link.name.reverse.getLast?.any Char.isDigit = false := by
    rw [List.getLast?_reverse]
    exact link.isSegment.starts
  have hempty : link.name.reverse.isEmpty = false := by simpa using link.isSegment.ne_nil
  simp only [nameLeft?, beforeSeparator?_link, Option.bind_eq_bind, Option.bind_some,
    takeWhile_reverse link.isSegment.parts hbefore, hdigit, hempty, Bool.or_self,
    Bool.false_eq_true, if_false, List.reverse_reverse, List.drop_left]

/-- Where a chain begins, there is no further name to the left. -/
theorem BeginsBehind.nameLeft? (hfront : BeginsBehind front) :
    nameLeft? front.reverse = none := by
  have htrim : Text.trimStart front.reverse = (Text.trimEnd front).reverse := by
    rw [Text.trimEnd, List.reverse_reverse]
    rfl
  have hseparator := hfront.separator
  generalize Text.trimEnd front = trimmed at htrim hseparator
  rcases List.eq_nil_or_concat trimmed with rfl | ⟨rest, last, rfl⟩
  · simp [TypedChain.nameLeft?, beforeSeparator?, htrim]
  · rw [List.concat_eq_append] at *
    rcases hseparator with ⟨body, hbody⟩ | hother
    · -- Of two points the one to the right separates nothing, as no name stands before it.
      have hpoints : beforeSeparator? front.reverse = some ('.' :: body.reverse) := by
        have hpoint : Text.isBlank '.' = false := by decide
        rw [beforeSeparator?, htrim, ← hbody]
        simp [Text.trimStart, hpoint]
      simp [TypedChain.nameLeft?, hpoints, isIdentifierPart_point]
    · have hlast := hother last (by simp)
      simp [TypedChain.nameLeft?, beforeSeparator?, htrim, hlast]

/-! ## All names to the left -/

/-- A chain is written link by link. -/
theorem written_concat (links : List Link) (link : Link) :
    written (links ++ [link]) = written links ++ link.text := by
  simp [written]

/-- There are no more names than characters. -/
theorem length_le_written (links : List Link) : links.length ≤ (written links).length := by
  induction links with
  | nil => exact Nat.zero_le _
  | cons link links ih =>
    have hname := List.length_pos_iff.mpr link.isSegment.ne_nil
    simp only [written, Link.text, List.flatMap_cons, List.length_append, List.length_cons]
      at ih ⊢
    omega

/-- Neither behind a link nor where a chain begins does a name end. -/
theorem head?_written (hfront : BeginsBehind front) (links : List Link) :
    ∀ c ∈ ((written links).reverse ++ front.reverse).head?, Text.isIdentifierPart c = false := by
  rcases List.eq_nil_or_concat links with rfl | ⟨links, link, rfl⟩
  · simpa [written] using hfront.name
  · have hlink := link.joint.head?_reverse
      (link.call.reverse ++ (link.name.reverse ++ ((written links).reverse ++ front.reverse)))
    simpa [written_concat, Link.text] using hlink

/-- All names of a chain stand to the left. -/
theorem namesLeft_written (hfront : BeginsBehind front) {links : List Link} {steps : Nat}
    (hsteps : links.length ≤ steps) :
    namesLeft steps ((written links).reverse ++ front.reverse) =
      ((links.map Link.name).reverse, front.reverse) := by
  -- The chain is read from its end, so its last link comes first.
  induction links using List.reverseRecOn generalizing steps with
  | nil =>
    cases steps with
    | zero => rfl
    | succ steps => simp [written, namesLeft, hfront.nameLeft?]
  | append_singleton links link ih =>
    rw [List.length_append, List.length_singleton] at hsteps
    obtain ⟨steps, rfl⟩ := Nat.exists_eq_add_of_le' hsteps
    have hleft := nameLeft?_link link (head?_written hfront links)
    have hreverse : (written (links ++ [link])).reverse ++ front.reverse =
        link.text.reverse ++ ((written links).reverse ++ front.reverse) := by
      simp [written_concat]
    rw [hreverse, ← Nat.add_assoc, namesLeft, hleft]
    simp [ih (Nat.le_add_left links.length steps)]

/-- A chain is read back as it is written: the names with a sign behind them, what is typed of the
next name, and the place where the chain begins. -/
theorem read_written {partialName : Text} (links : List Link) (behind : Text)
    (hpartial : ∀ c ∈ partialName, Text.isIdentifierPart c = true) (hfront : BeginsBehind front) :
    read (front ++ written links ++ partialName ++ behind)
        (front ++ written links ++ partialName).length =
      ⟨links.map Link.name, partialName, front.length⟩ := by
  have hleft : leftOf (front ++ written links ++ partialName ++ behind)
      (front ++ written links ++ partialName).length =
        partialName.reverse ++ ((written links).reverse ++ front.reverse) := by
    rw [leftOf, List.take_left, List.reverse_append, List.reverse_append]
  have hrun := takeWhile_reverse hpartial (head?_written hfront links)
  have hsteps : links.length ≤
      (partialName.reverse ++ ((written links).reverse ++ front.reverse)).length := by
    have hle := length_le_written links
    simp only [List.length_append, List.length_reverse]
    omega
  have hnames := namesLeft_written hfront hsteps
  have hrest : (partialName.reverse ++ ((written links).reverse ++ front.reverse)).drop
      partialName.length = (written links).reverse ++ front.reverse :=
    List.drop_left' List.length_reverse
  rw [read, hleft]
  simp only [hrun, List.length_reverse, hrest, hnames, List.reverse_reverse]

/-- A chain in which a call with a call in its arguments is written between blanks. -/
theorem read_written_call :
    (∀ c ∈ ['m'], Text.isIdentifierPart c = true) ∧ BeginsBehind "x = ".toList ∧
      read "x = get (a, (b)) : n.m(".toList 22 = ⟨["get".toList, ['n']], ['m'], 4⟩ := by
  have hfront : BeginsBehind "x = ".toList := ⟨by decide +kernel, Or.inr (by decide +kernel)⟩
  have hinner : Parenthesized "a, (b)".toList :=
    .plain (by decide) (by decide) (.plain (by decide) (by decide) (.plain (by decide) (by decide)
      (.group (.plain (by decide) (by decide) .nil) .nil)))
  let first : Link := ⟨"get".toList, " (a, (b))".toList,
    ⟨[' '], ':', [' '], by decide, Or.inr rfl, by decide⟩, ⟨by decide, by decide +kernel, rfl⟩,
    @IsCall.group [' '] _ (by decide) hinner⟩
  let second : Link := ⟨['n'], [], ⟨[], '.', [], by decide, Or.inl rfl, by decide⟩,
    ⟨by decide, by decide +kernel, rfl⟩, .none⟩
  have hpartial : ∀ c ∈ ['m'], Text.isIdentifierPart c = true := by decide +kernel
  exact ⟨hpartial, hfront, read_written [first, second] ['('] hpartial hfront⟩

end LuaAssist.TypedChain

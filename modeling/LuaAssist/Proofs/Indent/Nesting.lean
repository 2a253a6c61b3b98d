import LuaAssist.Proofs.Indent.Blocks

/-!
# Lines that fit below others

A line fits below the lines above it if its depth is the one that these lead to, or, where it
ends a block, the depth of the line that began the block. All lines of a program fit: reading
the lines of a body backwards changes nothing about which block is looked for.
-/

namespace LuaAssist.Indent

/-- The depth of a new line below the given ones. -/
def nextDepth (above : List Line) : Nat :=
  match above.getLast? with
  | none => 0
  | some line => line.depth + (delta (ownKeywords line.text)).toNat

/-- The depth of the nearest line that begins the block that is looked for, among lines that are
given from the nearest on. -/
def openerDepth? (depth : Int) : List Line → Option Nat
  | [] => none
  | line :: rest =>
    let (after, begun) := unclosed depth (ownKeywords line.text)
    if begun then some line.depth else openerDepth? after rest

/-- A line that stands where the lines above it say. -/
inductive Fits (above : List Line) (line : Line) : Prop where
  | below {role : Role} (hplays : Plays role line.text) (hrole : role.aligns = false)
      (hdepth : line.depth = nextDepth above)
  | aligned {role : Role} (hplays : Plays role line.text) (hrole : role.aligns = true)
      (hopener : openerDepth? 0 above.reverse = some line.depth)

/-- A fitting line plays a role. -/
theorem Fits.plays {above : List Line} {line : Line} (hfits : Fits above line) :
    ∃ role, Plays role line.text := by
  cases hfits with
  | below hplays => exact ⟨_, hplays⟩
  | aligned hplays => exact ⟨_, hplays⟩

/-- Lines of which each fits below all before it. -/
inductive WellLaid : List Line → List Line → Prop where
  | nil (above : List Line) : WellLaid above []
  | cons {above : List Line} {line : Line} {rest : List Line} (hfits : Fits above line)
      (hrest : WellLaid (above ++ [line]) rest) : WellLaid above (line :: rest)

/-- Well laid lines go on below well laid lines. -/
theorem WellLaid.append {above lines others : List Line} (hlines : WellLaid above lines)
    (hothers : WellLaid (above ++ lines) others) : WellLaid above (lines ++ others) := by
  induction hlines with
  | nil above => simpa using hothers
  | cons hfits _ ih => exact .cons hfits (ih (by simpa using hothers))

/-! ## Reading backwards -/

/-- Lines that begin and end their blocks: reading them backwards leads nowhere. -/
def Balanced (lines : List Line) : Prop :=
  ∀ (depth : Int) (above : List Line), 0 ≤ depth →
    openerDepth? depth (lines.reverse ++ above) = openerDepth? depth above

/-- One line of a role, read backwards. -/
theorem openerDepth?_cons {role : Role} {line : Line} (hplays : Plays role line.text) (depth : Int)
    (above : List Line) :
    openerDepth? depth (line :: above) =
      if (role.unclosed depth).2 then some line.depth
      else openerDepth? (role.unclosed depth).1 above := by
  rw [openerDepth?, hplays.unclosed]

/-- A line that opens a level begins the nearest block. -/
theorem openerDepth?_opening {line : Line} (hplays : Plays .opening line.text)
    (above : List Line) : openerDepth? 0 (line :: above) = some line.depth := by
  rw [openerDepth?_cons hplays]
  rfl

/-- So does a line that closes one and opens another. -/
theorem openerDepth?_between {line : Line} (hplays : Plays .between line.text)
    (above : List Line) : openerDepth? 0 (line :: above) = some line.depth := by
  rw [openerDepth?_cons hplays]
  rfl

/-- No lines lead nowhere. -/
theorem balanced_nil : Balanced [] := fun _ _ _ => rfl

/-- Nor do balanced lines one below the other. -/
theorem Balanced.append {lines others : List Line} (hlines : Balanced lines)
    (hothers : Balanced others) : Balanced (lines ++ others) := by
  intro depth above hdepth
  rw [List.reverse_append, List.append_assoc, hothers _ _ hdepth, hlines _ _ hdepth]

/-- A line that keeps the level is balanced. -/
theorem balanced_plain (line : Line) (hplays : Plays .plain line.text) : Balanced [line] := by
  intro depth above _
  exact openerDepth?_cons hplays depth above

/-- Lines of which one more ends a block than begins one. -/
def Closing (lines : List Line) : Prop :=
  ∀ (depth : Int) (above : List Line), 0 ≤ depth →
    openerDepth? depth (lines.reverse ++ above) = openerDepth? (depth + 1) above

/-- A line that closes a level. -/
theorem closing_line (line : Line) (hplays : Plays .closing line.text) : Closing [line] := by
  intro depth above _
  exact openerDepth?_cons hplays depth above

/-- A body in front of what ends its block. -/
theorem Closing.body {body ending : List Line} (hbody : Balanced body) (hending : Closing ending) :
    Closing (body ++ ending) := by
  intro depth above hdepth
  rw [List.reverse_append, List.append_assoc, hending _ _ hdepth, hbody _ _ (by omega)]

/-- What ends a block, with another branch in front. -/
theorem Closing.branch (line : Line) {ending : List Line} (hplays : Plays .between line.text)
    (hending : Closing ending) : Closing (line :: ending) := by
  intro depth above hdepth
  have hbegun : (Role.between.unclosed (depth + 1)).2 = false :=
    decide_eq_false (by omega)
  rw [List.reverse_cons, List.append_assoc, hending _ _ hdepth, List.singleton_append,
    openerDepth?_cons hplays, hbegun]
  rfl

/-- What ends a block, with the line that begins it in front. -/
theorem Closing.opened (line : Line) {ending : List Line} (hplays : Plays .opening line.text)
    (hending : Closing ending) : Balanced (line :: ending) := by
  intro depth above hdepth
  have hbegun : (Role.opening.unclosed (depth + 1)).2 = false :=
    decide_eq_false (by omega)
  have hafter : (Role.opening.unclosed (depth + 1)).1 = depth := by
    simp only [Role.unclosed]
    omega
  rw [List.reverse_cons, List.append_assoc, hending _ _ hdepth, List.singleton_append,
    openerDepth?_cons hplays, hbegun, hafter]
  rfl

/-! ## Programs -/

/-- Branches whose texts are plain and swallow nothing. -/
def Branches.IsSound (branches : Branches) : Prop :=
  branches.All Indent.IsPlain Block.IsPlain Indent.IsPlain ∧
    branches.All (fun _ => True) Block.IsFinished fun condition => Lexer.Finishes condition ' '

/-- A program whose texts are plain and swallow nothing. -/
def Program.IsSound (program : Program) : Prop := program.IsPlain ∧ program.IsFinished

mutual

/-- The lines of a program begin and end their blocks. -/
theorem Program.balanced (program : Program) (hsound : program.IsSound) (depth : Nat) :
    Balanced (program.lines depth) := by
  match program, hsound with
  | .empty, _ => exact balanced_nil
  | .statement text rest, ⟨⟨htext, hrest⟩, ⟨_, hfinished⟩⟩ =>
    exact (balanced_plain ⟨depth, text⟩ htext.plays).append (rest.balanced ⟨hrest, hfinished⟩ depth)
  | .block block body rest, ⟨⟨hblock, hbody, hrest⟩, ⟨hends, hbodyEnds, hrestEnds⟩⟩ =>
    have hlast := closing_line ⟨depth, block.last⟩ (Block.plays_last hblock)
    have hclosing := Closing.body (body.balanced ⟨hbody, hbodyEnds⟩ (depth + 1)) hlast
    have hopened := Closing.opened ⟨depth, block.first⟩ (Block.plays_first hblock hends) hclosing
    have hlines := hopened.append (rest.balanced ⟨hrest, hrestEnds⟩ depth)
    simpa [Program.lines] using hlines
  | .choice condition body branches rest,
      ⟨⟨hcondition, hbody, hbranches, hrest⟩, ⟨hends, hbodyEnds, hbranchesEnd, hrestEnds⟩⟩ =>
    have hending := branches.closing ⟨hbranches, hbranchesEnd⟩ depth
    have hclosing := Closing.body (body.balanced ⟨hbody, hbodyEnds⟩ (depth + 1)) hending
    have hopened := Closing.opened ⟨depth, choiceLine condition⟩
      (plays_choiceLine hcondition.toIsPart hends) hclosing
    have hlines := hopened.append (rest.balanced ⟨hrest, hrestEnds⟩ depth)
    simpa [Program.lines] using hlines

/-- The lines of branches end one block more than they begin. -/
theorem Branches.closing (branches : Branches) (hsound : branches.IsSound) (depth : Nat) :
    Closing (branches.lines depth) := by
  match branches, hsound with
  | .done, _ => exact closing_line ⟨depth, "end".toList⟩ (plays_end (List.mem_cons_self ..))
  | .otherwise body, ⟨hbody, hbodyEnds⟩ =>
    have hlast := closing_line ⟨depth, "end".toList⟩ (plays_end (List.mem_cons_self ..))
    have hclosing := Closing.body (body.balanced ⟨hbody, hbodyEnds⟩ (depth + 1)) hlast
    exact Closing.branch ⟨depth, "else".toList⟩ plays_else hclosing
  | .orIf condition body branches,
      ⟨⟨hcondition, hbody, hbranches⟩, ⟨hends, hbodyEnds, hbranchesEnd⟩⟩ =>
    have hending := branches.closing ⟨hbranches, hbranchesEnd⟩ depth
    have hclosing := Closing.body (body.balanced ⟨hbody, hbodyEnds⟩ (depth + 1)) hending
    exact Closing.branch ⟨depth, branchLine condition⟩
      (plays_branchLine hcondition.toIsPart hends) hclosing

end

/-- Below a line stands the next one at its depth, or one level deeper if it opens one. -/
theorem nextDepth_concat {role : Role} {line : Line} (hplays : Plays role line.text)
    (above : List Line) : nextDepth (above ++ [line]) = line.depth + role.levels := by
  simp [nextDepth, hplays.levels]

/-- Below a line that begins a block and the block's body, what ends the block stands under it. -/
theorem openerDepth?_body {line : Line} {body : List Line} (above : List Line)
    (hline : ∀ above, openerDepth? 0 (line :: above) = some line.depth) (hbody : Balanced body) :
    openerDepth? 0 (above ++ line :: body).reverse = some line.depth := by
  rw [List.reverse_append, List.reverse_cons, List.append_assoc, hbody _ _ (Int.le_refl 0),
    List.singleton_append, hline]

mutual

/-- The lines of a program fit where they are begun, and lead back to their depth. -/
theorem Program.wellLaid (program : Program) (hsound : program.IsSound) (above : List Line)
    (depth : Nat) (hdepth : nextDepth above = depth) :
    WellLaid above (program.lines depth) ∧ nextDepth (above ++ program.lines depth) = depth := by
  match program, hsound with
  | .empty, _ => exact ⟨.nil above, by simpa [Program.lines] using hdepth⟩
  | .statement text rest, ⟨⟨htext, hrest⟩, ⟨_, hfinished⟩⟩ =>
    have hplays : Plays .plain (Line.mk depth text).text := htext.plays
    obtain ⟨hlaid, hnext⟩ := rest.wellLaid ⟨hrest, hfinished⟩ (above ++ [⟨depth, text⟩]) depth
      (nextDepth_concat hplays above)
    refine ⟨.cons (.below hplays rfl hdepth.symm) hlaid, ?_⟩
    simpa [Program.lines] using hnext
  | .block block body rest, ⟨⟨hblock, hbody, hrest⟩, ⟨hends, hbodyEnds, hrestEnds⟩⟩ =>
    have hfirst : Plays .opening (Line.mk depth block.first).text := Block.plays_first hblock hends
    have hlast : Plays .closing (Line.mk depth block.last).text := Block.plays_last hblock
    obtain ⟨hbodyLaid, -⟩ := body.wellLaid ⟨hbody, hbodyEnds⟩ (above ++ [⟨depth, block.first⟩])
      (depth + 1) (nextDepth_concat hfirst above)
    -- Read backwards from the last line, the body leads nowhere and the first line is found.
    have hopener := openerDepth?_body above (openerDepth?_opening hfirst)
      (body.balanced ⟨hbody, hbodyEnds⟩ (depth + 1))
    obtain ⟨hrestLaid, hnext⟩ := rest.wellLaid ⟨hrest, hrestEnds⟩
      (above ++ [⟨depth, block.first⟩] ++ body.lines (depth + 1) ++ [⟨depth, block.last⟩]) depth
      (nextDepth_concat hlast _)
    refine ⟨.cons (.below hfirst rfl hdepth.symm) (hbodyLaid.append (.cons (.aligned hlast rfl ?_)
      hrestLaid)), ?_⟩
    · simpa using hopener
    · simpa [Program.lines] using hnext
  | .choice condition body branches rest,
      ⟨⟨hcondition, hbody, hbranches, hrest⟩, ⟨hends, hbodyEnds, hbranchesEnd, hrestEnds⟩⟩ =>
    have hfirst : Plays .opening (Line.mk depth (choiceLine condition)).text :=
      plays_choiceLine hcondition.toIsPart hends
    obtain ⟨hbodyLaid, -⟩ := body.wellLaid ⟨hbody, hbodyEnds⟩
      (above ++ [⟨depth, choiceLine condition⟩]) (depth + 1) (nextDepth_concat hfirst above)
    have hopener := openerDepth?_body above (openerDepth?_opening hfirst)
      (body.balanced ⟨hbody, hbodyEnds⟩ (depth + 1))
    obtain ⟨hbranchesLaid, hback⟩ := branches.wellLaid ⟨hbranches, hbranchesEnd⟩
      (above ++ [⟨depth, choiceLine condition⟩] ++ body.lines (depth + 1)) depth
      (by simpa using hopener)
    obtain ⟨hrestLaid, hnext⟩ := rest.wellLaid ⟨hrest, hrestEnds⟩ _ depth hback
    refine ⟨?_, ?_⟩
    · have hlaid := WellLaid.cons (.below hfirst rfl hdepth.symm)
        ((hbodyLaid.append hbranchesLaid).append (by simpa using hrestLaid))
      simpa [Program.lines] using hlaid
    · simpa [Program.lines] using hnext

/-- The lines of branches fit below a body whose block they go on with. -/
theorem Branches.wellLaid (branches : Branches) (hsound : branches.IsSound) (above : List Line)
    (depth : Nat) (hopener : openerDepth? 0 above.reverse = some depth) :
    WellLaid above (branches.lines depth) ∧ nextDepth (above ++ branches.lines depth) = depth := by
  match branches, hsound with
  | .done, _ =>
    have hplays : Plays .closing (Line.mk depth "end".toList).text :=
      plays_end (List.mem_cons_self ..)
    exact ⟨.cons (.aligned hplays rfl hopener) (.nil _), nextDepth_concat hplays above⟩
  | .otherwise body, ⟨hbody, hbodyEnds⟩ =>
    have helse : Plays .between (Line.mk depth "else".toList).text := plays_else
    have hend : Plays .closing (Line.mk depth "end".toList).text :=
      plays_end (List.mem_cons_self ..)
    obtain ⟨hbodyLaid, -⟩ := body.wellLaid ⟨hbody, hbodyEnds⟩ (above ++ [⟨depth, "else".toList⟩])
      (depth + 1) (nextDepth_concat helse above)
    have hback := openerDepth?_body above (openerDepth?_between helse)
      (body.balanced ⟨hbody, hbodyEnds⟩ (depth + 1))
    have hnext := nextDepth_concat hend
      (above ++ [⟨depth, "else".toList⟩] ++ body.lines (depth + 1))
    refine ⟨.cons (.aligned helse rfl hopener) (hbodyLaid.append (.cons (.aligned hend rfl ?_)
      (.nil _))), ?_⟩
    · simpa using hback
    · simpa [Branches.lines, Role.levels] using hnext
  | .orIf condition body branches,
      ⟨⟨hcondition, hbody, hbranches⟩, ⟨hends, hbodyEnds, hbranchesEnd⟩⟩ =>
    have hfirst : Plays .between (Line.mk depth (branchLine condition)).text :=
      plays_branchLine hcondition.toIsPart hends
    obtain ⟨hbodyLaid, -⟩ := body.wellLaid ⟨hbody, hbodyEnds⟩
      (above ++ [⟨depth, branchLine condition⟩]) (depth + 1) (nextDepth_concat hfirst above)
    have hback := openerDepth?_body above (openerDepth?_between hfirst)
      (body.balanced ⟨hbody, hbodyEnds⟩ (depth + 1))
    obtain ⟨hbranchesLaid, hnext⟩ := branches.wellLaid ⟨hbranches, hbranchesEnd⟩
      (above ++ [⟨depth, branchLine condition⟩] ++ body.lines (depth + 1)) depth
      (by simpa using hback)
    refine ⟨.cons (.aligned hfirst rfl hopener) (hbodyLaid.append hbranchesLaid), ?_⟩
    simpa [Branches.lines] using hnext

end

end LuaAssist.Indent

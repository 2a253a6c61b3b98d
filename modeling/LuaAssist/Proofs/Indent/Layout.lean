import LuaAssist.Indent.Typing
import LuaAssist.Text.Search

/-!
# Programs and how they are laid out

A program in its blocks, the lines that it is laid out in, and what an editor does with these
while they are typed: it asks for an edit after each line feed and after each letter that may
finish a closing keyword, and applies the edit.
-/

namespace LuaAssist.Indent

/-! ## Lines -/

/-- A line of a program. -/
structure Line where
  /-- How many blocks it stands in. -/
  depth : Nat
  /-- The line without its indentation. -/
  text : Text
  deriving DecidableEq, Repr

/-- A line with its indentation. -/
def Line.render (style : Style) (line : Line) : Text :=
  blanks (line.depth * style.size) style ++ line.text

/-- The lines as they are printed. -/
def printed (style : Style) (lines : List Line) : Text :=
  Text.join ['\n'] (lines.map (Line.render style))

/-- The characters that are typed for lines: none of the indentation. -/
def keystrokes (lines : List Line) : Text := Text.join ['\n'] (lines.map Line.text)

/-! ## Programs -/

/-- A block with one body, by the lines around it. -/
inductive Block where
  | whileDo (condition : Text)
  | forDo (header : Text)
  | justDo
  | repeatUntil (condition : Text)
  | function (isLocal : Bool) (header : Text)
  /-- A call whose last argument is a function. -/
  | callback (callee arguments : Text)
  deriving DecidableEq, Repr

/-- The line in front of the body. -/
def Block.first : Block → Text
  | .whileDo condition => "while ".toList ++ condition ++ " do".toList
  | .forDo header => "for ".toList ++ header ++ " do".toList
  | .justDo => "do".toList
  | .repeatUntil _ => "repeat".toList
  | .function true header => "local function ".toList ++ header
  | .function false header => "function ".toList ++ header
  | .callback callee arguments => callee ++ "(function(".toList ++ arguments ++ ")".toList

/-- The line behind the body. -/
def Block.last : Block → Text
  | .repeatUntil condition => "until ".toList ++ condition
  | .callback _ _ => "end)".toList
  | _ => "end".toList

mutual

/-- Statements one after the other. -/
inductive Program where
  | empty
  | statement (text : Text) (rest : Program)
  | block (block : Block) (body rest : Program)
  | choice (condition : Text) (body : Program) (branches : Branches) (rest : Program)

/-- What follows the first body of a choice. -/
inductive Branches where
  | done
  | otherwise (body : Program)
  | orIf (condition : Text) (body : Program) (branches : Branches)

end

/-- The line that begins a choice. -/
def choiceLine (condition : Text) : Text := "if ".toList ++ condition ++ " then".toList

/-- The line that begins another branch of a choice. -/
def branchLine (condition : Text) : Text := "elseif ".toList ++ condition ++ " then".toList

mutual

/-- A program line by line, from a depth on. -/
def Program.lines (depth : Nat) : Program → List Line
  | .empty => []
  | .statement text rest => ⟨depth, text⟩ :: rest.lines depth
  | .block block body rest =>
    ⟨depth, block.first⟩ :: body.lines (depth + 1) ++ ⟨depth, block.last⟩ :: rest.lines depth
  | .choice condition body branches rest =>
    ⟨depth, choiceLine condition⟩ :: body.lines (depth + 1) ++ branches.lines depth ++
      rest.lines depth

/-- The branches of a choice line by line. -/
def Branches.lines (depth : Nat) : Branches → List Line
  | .done => [⟨depth, "end".toList⟩]
  | .otherwise body =>
    ⟨depth, "else".toList⟩ :: body.lines (depth + 1) ++ [⟨depth, "end".toList⟩]
  | .orIf condition body branches =>
    ⟨depth, branchLine condition⟩ :: body.lines (depth + 1) ++ branches.lines depth

end

mutual

/-- All texts of a program have given properties: its statements, its blocks, and the conditions
of its choices. -/
def Program.All (statement : Text → Prop) (block : Block → Prop) (condition : Text → Prop) :
    Program → Prop
  | .empty => True
  | .statement text rest => statement text ∧ rest.All statement block condition
  | .block inner body rest =>
    block inner ∧ body.All statement block condition ∧ rest.All statement block condition
  | .choice text body branches rest =>
    condition text ∧ body.All statement block condition ∧
      branches.All statement block condition ∧ rest.All statement block condition

/-- All texts of some branches have given properties. -/
def Branches.All (statement : Text → Prop) (block : Block → Prop) (condition : Text → Prop) :
    Branches → Prop
  | .done => True
  | .otherwise body => body.All statement block condition
  | .orIf text body branches =>
    condition text ∧ body.All statement block condition ∧ branches.All statement block condition

end

section Decide

variable {statement : Text → Prop} {block : Block → Prop} {condition : Text → Prop}
  [DecidablePred statement] [DecidablePred block] [DecidablePred condition]

mutual

instance Program.decideAll : (program : Program) → Decidable (program.All statement block condition)
  | .empty => isTrue trivial
  | .statement text rest =>
    let _ := rest.decideAll
    inferInstanceAs (Decidable (statement text ∧ rest.All statement block condition))
  | .block inner body rest =>
    let _ := body.decideAll
    let _ := rest.decideAll
    inferInstanceAs (Decidable (block inner ∧ body.All statement block condition ∧
      rest.All statement block condition))
  | .choice text body branches rest =>
    let _ := body.decideAll
    let _ := branches.decideAll
    let _ := rest.decideAll
    inferInstanceAs (Decidable (condition text ∧ body.All statement block condition ∧
      branches.All statement block condition ∧ rest.All statement block condition))

instance Branches.decideAll :
    (branches : Branches) → Decidable (branches.All statement block condition)
  | .done => isTrue trivial
  | .otherwise body => body.decideAll
  | .orIf text body branches =>
    let _ := body.decideAll
    let _ := branches.decideAll
    inferInstanceAs (Decidable (condition text ∧ body.All statement block condition ∧
      branches.All statement block condition))

end

end Decide

/-! ## Texts -/

/-- What every closing keyword begins with. -/
def closingStems : List Text := ["end".toList, "else".toList, "until".toList]

/-- A text that may be part of a line: it has no line break and leaves no long bracket open, no
block keyword stands in it and no name that begins like a closing keyword. -/
structure IsPart (text : Text) : Prop where
  unbroken : ∀ c ∈ text, Document.isBreak c = false
  closed : (Lexer.scan text .code).state = .code
  plain : ∀ token ∈ (Lexer.scan text .code).tokens, opens token.text = false ∧
    closes token.text = false ∧ ∀ stem ∈ closingStems, ¬ stem <+: token.text

instance (text : Text) : Decidable (IsPart text) :=
  decidable_of_iff (_ ∧ _ ∧ _) ⟨fun h => ⟨h.1, h.2.1, h.2.2⟩, fun h => ⟨h.1, h.2, h.3⟩⟩

/-- A part of a line that is not blank and begins neither with a blank nor with a comment. -/
structure IsPlain (text : Text) : Prop extends IsPart text where
  begins : text.head?.any (fun c => !Text.isBlank c) = true
  notComment : ¬ "--".toList <+: text

instance (text : Text) : Decidable (IsPlain text) :=
  decidable_of_iff (IsPart text ∧ _ ∧ _) ⟨fun h => ⟨h.1, h.2.1, h.2.2⟩, fun h => ⟨h.1, h.2, h.3⟩⟩

/-- A block whose texts are plain. The arguments of a callback may be missing. -/
def Block.IsPlain : Block → Prop
  | .whileDo text | .forDo text | .repeatUntil text | .function _ text => Indent.IsPlain text
  | .justDo => True
  | .callback callee arguments => Indent.IsPlain callee ∧ IsPart arguments

instance : (block : Block) → Decidable block.IsPlain
  | .whileDo text | .forDo text | .repeatUntil text | .function _ text =>
    inferInstanceAs (Decidable (Indent.IsPlain text))
  | .justDo => isTrue trivial
  | .callback callee arguments =>
    inferInstanceAs (Decidable (Indent.IsPlain callee ∧ IsPart arguments))

/-- A program whose texts are plain. -/
def Program.IsPlain (program : Program) : Prop :=
  program.All Indent.IsPlain Block.IsPlain Indent.IsPlain

instance (program : Program) : Decidable program.IsPlain := Program.decideAll program

/-! ## Typing -/

/-- The document after something was typed on its last line and the editor asked for an edit. -/
def indentLast (style : Style) (document typed : Text) : Text :=
  match edit? document (Document.lineCount document - 1) typed style with
  | none => document
  | some edit => Document.apply document edit.toChange

/-- The document after a character was typed at its end. -/
def typeChar (style : Style) (document : Text) (c : Char) : Text :=
  let typed := document ++ [c]
  if c = '\n' || electric.contains c then indentLast style typed [c] else typed

/-- The document that typing leads to. -/
def typeOut (style : Style) (keys : Text) : Text := keys.foldl (typeChar style) []

end LuaAssist.Indent

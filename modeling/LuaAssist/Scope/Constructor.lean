import LuaAssist.Scope
import LuaAssist.Scope.Words

/-!
# Table constructors

The members that a table constructor gives its table: the names of its named fields and,
below each, the members of the constructors that are its value. Positional values count
for nothing, and a constructor that is not closed gives what is there.
-/

namespace LuaAssist.Constructor

/-- A table under construction and the field whose value it is. -/
structure Frame where
  key : Option Text
  members : Scope

/-- An empty table under a field. -/
def Frame.new (key : Option Text) : Frame := ⟨key, .empty⟩

/-- Hands the members of a finished table to the table around it. -/
def Frame.close (inner outer : Frame) : Frame :=
  match inner.key with
  | none => outer
  | some key =>
    { outer with members := (outer.members.enter [key]).absorb [key] inner.members.chains [] }

/-- The table gets a field. -/
def Frame.touch (frame : Frame) (key : Text) : Frame :=
  { frame with members := frame.members.enter [key] }

/-- The words after which a field may begin. -/
def precedesField (word : Word) : Bool :=
  word.isSign "\x7b" || word.isSign "," || word.isSign ";"

/-- A literal without the quotes around it. -/
def unquoted (text : Text) : Text :=
  let quote := fun c : Char => c = '"' || c = '\''
  ((text.dropWhile quote).reverse.dropWhile quote).reverse

/-- The key of a field that begins with a word, and how many further words reach up to its
equals sign: a name, or a literal that is not empty in brackets. -/
def fieldKey? (word : Word) (rest : List Word) : Option (Text × Nat) :=
  match rest with
  | [] => none
  | next :: more =>
    if word.isName && next.isSign "=" then some (word.text, 1)
    else if word.isSign "[" && next.kind = .string then
      match more with
      | close :: equals :: _ =>
        let key := unquoted next.text
        if close.isSign "]" && equals.isSign "=" && !key.isEmpty then some (key, 3) else none
      | _ => none
    else none

/-- Goes through the words of a constructor. `pending` is the field whose value begins with
the next word, `outer` the tables around the one under construction, the nearest first. The
answer is the members of the outermost table and the words behind its closing brace. -/
def membersFrom (pending : Option Text) (frame : Frame) (outer : List Frame) (previous : Word) :
    List Word → Scope × List Word
  | [] => ((outer.foldl Frame.close frame).members, [])
  | word :: rest =>
    if word.isSign "\x7b" then membersFrom none (.new pending) (frame :: outer) word rest
    else if word.isSign "\x7d" then
      match outer with
      | [] => (frame.members, rest)
      | parent :: others => membersFrom none (frame.close parent) others word rest
    else
      match if precedesField previous then fieldKey? word rest else none with
      | some (key, more) =>
        membersFrom (some key) (frame.touch key) outer ⟨.operator, ['=']⟩ (rest.drop more)
      | none => membersFrom none frame outer word rest
  termination_by words => words.length
  decreasing_by all_goals simp only [List.length_drop, List.length_cons]; omega

/-- The members of the constructor whose opening brace stands in front of the given words,
and the words behind it. -/
def read (words : List Word) : Scope × List Word :=
  membersFrom none (.new none) [] ⟨.operator, ['\x7b']⟩ words

end LuaAssist.Constructor

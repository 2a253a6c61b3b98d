import LuaAssist.Text.Blank
import LuaAssist.Text.Keyed
import LuaAssist.Text.Lines
import LuaAssist.Text.Search

/-!
# Documentation files

Three kinds of plain files document what a program can use: single words, types with
their members, and calls with their results and arguments. Every line that is not empty
is an entry.
-/

namespace LuaAssist.Documentation

/-- Drops all carriage returns at the end. -/
def dropReturns (line : Text) : Text := (line.reverse.dropWhile (· = '\r')).reverse

/-- The entries of a file: its lines that are not empty. -/
def words (text : Text) : List Text :=
  ((Text.lines text).map dropReturns).filter fun line => !line.isEmpty

/-! ## Members -/

/-- The types of a file with their members. -/
structure MemberTable where
  /-- All members, in the order of the file. -/
  words : List Text
  types : Keyed (List Text)
  deriving DecidableEq, Repr

namespace MemberTable

/-- No types. -/
def empty : MemberTable := ⟨[], .empty⟩

/-- The members of a type; none if it is unknown. -/
def membersOf (table : MemberTable) (type : Text) : List Text := (table.types.get? type).getD []

/-- Adds a line: a type and its members, between spaces. A type that comes again gets new
members. -/
def addLine (table : MemberTable) (line : Text) : MemberTable :=
  match (Text.splitOn (· = ' ') line).filter fun part => !part.isEmpty with
  | [] => table
  | type :: members => ⟨table.words ++ members, table.types.set type members⟩

/-- The types of a file. -/
def ofText (text : Text) : MemberTable := (Documentation.words text).foldl addLine empty

end MemberTable

/-! ## Calls -/

/-- A documented function. -/
structure Call where
  /-- The name behind the last separator. -/
  name : Text
  /-- What the function belongs to. -/
  owner : Option Text
  /-- The name as it is written. -/
  qualifiedName : Text
  /-- The type of the result, perhaps empty. -/
  returns : Text
  arguments : List Text
  deriving DecidableEq, Repr

/-- The last of the words between blanks. -/
def lastWord? (text : Text) : Option Text :=
  ((Text.splitOn Text.isBlank text).filter fun word => !word.isEmpty).getLast?

/-- Owner and name of a qualified name, which is cut at its last separator. Of an owner only
the last word counts, and of a name without owner too. -/
def splitName (qualified : Text) : Option Text × Text :=
  let isSeparator := fun c : Char => c = ':' || c = '.'
  if qualified.any isSeparator then
    let name := (qualified.reverse.takeWhile fun c => !isSeparator c).reverse
    (lastWord? (qualified.take (qualified.length - name.length - 1)), name)
  else (none, (lastWord? qualified).getD [])

/-- The call that a line documents: name, result and arguments between bars. Without a name
there is none. -/
def Call.ofLine? (line : Text) : Option Call :=
  match (Text.splitOn (· = '|') line).map Text.trim with
  | [] => none
  | qualified :: rest =>
    if qualified.isEmpty then none
    else
      let (owner, name) := splitName qualified
      some ⟨name, owner, qualified, rest.head?.getD [],
        rest.tail.filter fun argument => !argument.isEmpty⟩

/-- The calls of a file, found by name and by owner. -/
structure CallTable where
  /-- The names of all calls, in the order of the file. -/
  words : List Text
  byName : Keyed (List Call)
  byOwner : Keyed (List Call)
  deriving DecidableEq, Repr

namespace CallTable

/-- No calls. -/
def empty : CallTable := ⟨[], .empty, .empty⟩

/-- The calls of a name. -/
def named (table : CallTable) (name : Text) : List Call := (table.byName.get? name).getD []

/-- The calls of an owner. -/
def ownedBy (table : CallTable) (owner : Text) : List Call := (table.byOwner.get? owner).getD []

/-- Adds a call under its name and under its owner. -/
def add (table : CallTable) (call : Call) : CallTable where
  words := table.words ++ [call.name]
  byName := table.byName.push call.name call
  byOwner := match call.owner with
    | some owner => table.byOwner.push owner call
    | none => table.byOwner

/-- The calls of a file. -/
def ofText (text : Text) : CallTable :=
  ((Documentation.words text).filterMap Call.ofLine?).foldl add empty

end CallTable

end LuaAssist.Documentation

import LuaAssist.Text.Search

/-!
# Paths of files

A path is kept as it is written, but it means the sequence of its parts: repeated and
trailing slashes do not count, nor does a `.` that is not in front. Two paths are the
same when their parts are; `..` is a part like any other until a path is normalised.
-/

namespace LuaAssist

/-- A path as it is written. -/
structure Path where
  text : Text
  deriving DecidableEq, Repr, Inhabited

namespace Path

/-- One part of a path. -/
inductive Part where
  /-- The slash in front of an absolute path. -/
  | root
  /-- A `.` in front of a relative path. -/
  | current
  | parent
  | name (text : Text)
  deriving DecidableEq, Repr

/-- The part that a piece between two slashes stands for; empty pieces and `.` stand for
none. -/
def Part.ofPiece? (piece : Text) : Option Part :=
  if piece = [] || piece = ['.'] then none
  else if piece = ['.', '.'] then some .parent
  else some (.name piece)

/-- What a part adds to a written path. -/
def Part.text : Part → Text
  | .root => []
  | .current => ['.']
  | .parent => ['.', '.']
  | .name text => text

/-- The pieces of a written path between its slashes. -/
def pieces (path : Path) : List Text := Text.splitOn (· = '/') path.text

/-- The path starts at the root. -/
def isAbsolute (path : Path) : Bool := path.text.head? = some '/'

/-- The parts of a path. -/
def parts (path : Path) : List Part :=
  let named := path.pieces.filterMap Part.ofPiece?
  if path.isAbsolute then .root :: named
  else if path.pieces.head? = some ['.'] then .current :: named
  else named

/-- The plain spelling of a sequence of parts. -/
def ofParts (parts : List Part) : Path :=
  match parts with
  | [.root] => ⟨['/']⟩
  | _ => ⟨Text.join ['/'] (parts.map Part.text)⟩

/-- Paths with the same parts name the same place. -/
def same (p q : Path) : Bool := p.parts = q.parts

/-- Appends a relative path; an absolute one takes over. -/
def join (base relative : Path) : Path :=
  if relative.isAbsolute || base.text = [] then relative
  else if base.text.getLast? = some '/' then ⟨base.text ++ relative.text⟩
  else ⟨base.text ++ '/' :: relative.text⟩

/-- The path without its last part; the root and the empty path have none to lose. -/
def parent? (path : Path) : Option Path :=
  match path.parts with
  | [] => none
  | [.root] => none
  | parts => some (ofParts parts.dropLast)

/-- Everything that is left of a list as its last elements go, the longest first, without
the empty list. -/
def shortenings {α : Type} : List α → List (List α)
  | [] => []
  | a :: rest => (shortenings rest).map (a :: ·) ++ [[a]]

/-- A directory and all directories above it, the nearest first. -/
def ancestors (path : Path) : List Path :=
  (shortenings path.parts).map ofParts ++ if path.isAbsolute then [] else [⟨[]⟩]

/-- Adds one part to normalised parts, of which the last comes first. `..` takes back a name
and nothing else. -/
def normalizeStep (kept : List Part) : Part → List Part
  | .current => kept
  | .parent => match kept with
    | .name _ :: rest => rest
    | _ => kept
  | part => part :: kept

/-- The parts without `.` and `..`. -/
def normalParts (parts : List Part) : List Part := (parts.foldl normalizeStep []).reverse

/-- The path without `.` and `..`, unless nothing is left of it. -/
def normalize? (path : Path) : Option Path :=
  match normalParts path.parts with
  | [] => none
  | parts => some (ofParts parts)

end Path

end LuaAssist

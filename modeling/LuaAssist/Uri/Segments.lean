import LuaAssist.Uri.Escape
import LuaAssist.Uri.Scheme

/-!
# Paths of addresses

A path is read segment by segment. The two segments of dots lead up or stay, but nothing
leads out of a drive. The path of a file begins with its first segment that is not empty.
-/

namespace LuaAssist.Uri

/-- A segment that means the directory above. -/
def isDoubleDot (segment : Text) : Bool :=
  let plain := segment.map Char.toLower
  plain = "..".toList || plain = ".%2e".toList || plain = "%2e.".toList ||
    plain = "%2e%2e".toList

/-- A segment that means the directory itself. -/
def isSingleDot (segment : Text) : Bool :=
  let plain := segment.map Char.toLower
  plain = ".".toList || plain = "%2e".toList

/-- A drive, such as `C:`. Instead of the colon there may be a bar. -/
def isDrive (segment : Text) : Bool :=
  match segment with
  | [letter, sign] => letter.isAlpha && (sign = ':' || sign = '|')
  | _ => false

/-- A drive, or one with a backslash behind it. Two dots do not lead out of it. -/
def holds (segment : Text) : Bool :=
  isDrive (segment.take 2) && (segment.drop 2).head?.all (· = '\\')

/-- A drive with its colon, and what follows it after a character that does not count: this
is where the drive ends. -/
def cutDrive? (piece : Text) : Option (Text × Text) :=
  match piece.dropWhile isIgnored with
  | letter :: behind =>
    match behind.dropWhile isIgnored with
    | ':' :: mark :: rest =>
      if letter.isAlpha && isIgnored mark && !(counting rest).isEmpty then
        some ([letter, ':'], counting rest)
      else none
    | _ => none
  | [] => none

/-- Segments that were read, and whether the path of a file began with a drive. -/
structure Segments where
  known : List Text
  driven : Bool
  deriving DecidableEq, Repr

namespace Segments

/-- Reads one piece between slashes. The last one may leave an empty segment, which is the
trailing slash. -/
def add (file : Bool) (piece : Text) (last : Bool) (s : Segments) : Segments :=
  let segment := escape escapesPath (counting piece)
  let first := file && s.known.isEmpty
  let trailing := if last then [[]] else []
  match if first then cutDrive? piece else none with
  | some (drive, rest) => { s with known := [drive, escape escapesPath rest] }
  | none =>
    if isDoubleDot segment then
      let above := if s.known.getLast?.any holds then s.known else s.known.dropLast
      { s with known := above ++ trailing }
    else if isSingleDot segment then { s with known := s.known ++ trailing }
    else if first && isDrive segment then ⟨[segment.take 1 ++ [':']], true⟩
    else { s with known := s.known ++ [segment] }

/-- Reads piece by piece. -/
def addAll (file : Bool) : List Text → Segments → Segments
  | [], s => s
  | [piece], s => s.add file piece true
  | piece :: next :: rest, s => addAll file (next :: rest) (s.add file piece false)

/-- The segments of a path without its first slash. -/
def ofText (scheme text : Text) : Segments :=
  let file := scheme = fileScheme
  let all := addAll file (Text.splitOn (isSlash (isSpecial scheme)) text) ⟨[], false⟩
  if file then
    let known := all.known.dropWhile List.isEmpty
    { all with known := if known.isEmpty then [[]] else known }
  else all

/-- The segments of a path behind a host. Where a special scheme has none, it is the root. -/
def afterHost (scheme text : Text) : Segments :=
  if text.isEmpty && !isSpecial scheme then ⟨[], false⟩
  else ofText scheme ((afterSlash? (isSpecial scheme) text).getD text)

end Segments

end LuaAssist.Uri

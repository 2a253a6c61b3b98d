import LuaAssist.Text.Measure

/-!
# Lines ended by a line feed

A line ends before a line feed, and one carriage return directly before that line
feed belongs to the line end. Text after the last line feed is a line only if it
is not empty, and a carriage return at its end stays.
-/

namespace LuaAssist.Text

/-- The text split at its line feeds, which are dropped. The last piece is what follows
the last line feed, so there is always one piece more than there are line feeds. -/
def splitLineFeeds : Text → List Text
  | [] => [[]]
  | c :: rest =>
    if c = '\n' then [] :: splitLineFeeds rest
    else match splitLineFeeds rest with
      | [] => [[c]]
      | line :: lines => (c :: line) :: lines

/-- Drops one carriage return at the end. -/
def dropFinalReturn : Text → Text
  | [] => []
  | [c] => if c = '\r' then [] else [c]
  | c :: d :: rest => c :: dropFinalReturn (d :: rest)

/-- The lines of a text: every piece before a line feed without its final carriage return,
then what follows the last line feed unless it is empty. -/
def lines (text : Text) : List Text :=
  let pieces := splitLineFeeds text
  let last := pieces.getLast?.getD []
  pieces.dropLast.map dropFinalReturn ++ if last.isEmpty then [] else [last]

end LuaAssist.Text

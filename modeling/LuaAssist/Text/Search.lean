import LuaAssist.Text.Measure

/-!
# Parts of a text

Cutting a text at separators, and asking whether one text occurs inside another.
-/

namespace LuaAssist.Text

/-- The pieces between the separators; one piece more than there are separators. -/
def splitOn (isSeparator : Char → Bool) : Text → List Text
  | [] => [[]]
  | c :: rest =>
    if isSeparator c then [] :: splitOn isSeparator rest
    else match splitOn isSeparator rest with
      | [] => [[c]]
      | piece :: pieces => (c :: piece) :: pieces

/-- The text and everything that is left of it as characters are dropped from its front. -/
def suffixes : Text → List Text
  | [] => [[]]
  | c :: rest => (c :: rest) :: suffixes rest

/-- One text stands somewhere inside another, without a gap. -/
def occursIn (part text : Text) : Bool := (suffixes text).any fun rest => part.isPrefixOf rest

/-- The texts with a separator between neighbours. -/
def join (separator : Text) : List Text → Text
  | [] => []
  | [text] => text
  | text :: next :: rest => text ++ separator ++ join separator (next :: rest)

end LuaAssist.Text

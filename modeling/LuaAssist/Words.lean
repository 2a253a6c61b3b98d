import LuaAssist.Text.Measure

/-!
# The words of Lua

The reserved words, the names of metamethods, and the groups of keywords that
completion offers together.
-/

namespace LuaAssist.Words

/-- The reserved words of Lua 5.3. -/
def reserved : List Text :=
  ["and".toList, "break".toList, "do".toList, "else".toList, "elseif".toList, "end".toList,
   "false".toList, "for".toList, "function".toList, "goto".toList, "if".toList, "in".toList,
   "local".toList, "nil".toList, "not".toList, "or".toList, "repeat".toList, "return".toList,
   "then".toList, "true".toList, "until".toList, "while".toList]

/-- The metamethod names that are marked as such in the source. -/
def metamethods : List Text :=
  ["__index".toList, "__newindex".toList, "__concat".toList, "__call".toList, "__add".toList,
   "__band".toList, "__bnot".toList, "__bor".toList, "__bxor".toList, "__div".toList,
   "__eq".toList, "__idiv".toList, "__le".toList, "__len".toList, "__lt".toList,
   "__mod".toList, "__mul".toList, "__pow".toList, "__shl".toList, "__shr".toList,
   "__sub".toList, "__unm".toList]

/-- The receiver's own name, offered in every word context. -/
def selfName : List Text := ["self".toList]

/-- Keywords that declare a name. -/
def declaration : List Text := ["local".toList]

/-- Keywords that begin or structure a statement. -/
def statement : List Text :=
  ["break".toList, "do".toList, "else".toList, "elseif".toList, "end".toList, "for".toList,
   "function".toList, "goto".toList, "if".toList, "in".toList, "repeat".toList,
   "return".toList, "then".toList, "until".toList, "while".toList]

/-- Keywords for literals and logical operators, valid inside expressions. -/
def literal : List Text :=
  ["true".toList, "false".toList, "nil".toList, "and".toList, "not".toList, "or".toList]

/-- A reserved word; letter case counts. -/
def isReserved (word : Text) : Bool := reserved.contains word

/-- A metamethod name. -/
def isMetamethod (word : Text) : Bool := metamethods.contains word

end LuaAssist.Words

import LuaAssist.Index
import LuaAssist.Json
import LuaAssist.Text.LetterCase

/-!
# Settings

The settings of a session and how an editor changes them. Settings that are missing, of
the wrong kind or without sense leave the old value.
-/

namespace LuaAssist

/-- How serious a diagnostic is. -/
inductive Severity where
  | error
  | warning
  | information
  | hint
  deriving DecidableEq, Repr

/-- The number of a severity in messages. -/
def Severity.code : Severity → Nat
  | .error => 1
  | .warning => 2
  | .information => 3
  | .hint => 4

/-- The severity that a word means, in any letter case; other words mean a warning. -/
def Severity.ofWord (word : Text) : Severity :=
  let lowered := Text.lowercase word
  if lowered = "error".toList then .error
  else if lowered = "information".toList || lowered = "info".toList then .information
  else if lowered = "hint".toList then .hint
  else .warning

/-- The settings of a session. -/
structure Config where
  /-- The extension of source files, without its dot. -/
  extension : Text
  /-- The character that stands for a module in search patterns. -/
  placeholder : Char
  /-- Candidates are offered after a pause in typing. -/
  whenIdle : Bool
  /-- The directory of the documentation files. -/
  documentation : Option Path
  /-- The columns of one level of indentation. -/
  indentSize : Nat
  /-- How many open texts are remembered. -/
  capacity : Nat
  /-- The standard library is known. -/
  builtins : Bool
  /-- References that lead nowhere are reported. -/
  diagnostics : Bool
  /-- How serious such a reference is. -/
  severity : Severity
  deriving DecidableEq, Repr

namespace Config

/-- The settings before an editor has changed any. -/
def default (documentation : Option Path) : Config where
  extension := "lua".toList
  placeholder := '?'
  whenIdle := false
  documentation := documentation
  indentSize := 4
  capacity := TextCache.defaultCapacity
  builtins := true
  diagnostics := true
  severity := .warning

/-- The directory of the documentation files among the data of a user. -/
def documentationUnder (dataHome : Path) : Path :=
  dataHome.join ⟨"luasense/documentation/completion".toList⟩

/-- What the index of a session depends on. -/
def indexRule (config : Config) : IndexRule :=
  ⟨⟨config.extension, config.placeholder⟩, config.builtins, config.capacity⟩

/-- The key under which an editor may put all settings. -/
def wrapper : String := "luasense"

/-- An extension without the dots in front; none if nothing is left. -/
def extension? (json : Json) : Option Text := do
  let extension := (← json.text?).dropWhile (· = '.')
  if extension.isEmpty then none else some extension

/-- A text of exactly one character. -/
def placeholder? (json : Json) : Option Char := do
  match ← json.text? with
  | [c] => some c
  | _ => none

/-- A directory; the empty text, and one that no path can be, means none. -/
def documentation? (json : Json) : Option (Option Path) := do
  let written ← json.text?
  if written.isEmpty || written.contains '\x00' then some none else some (some ⟨written⟩)

/-- The largest number that a size can be. -/
def sizeLimit : Nat := 0xFFFFFFFFFFFFFFFF

/-- A whole number above zero. -/
def size? (json : Json) : Option Nat := do
  let value ← json.natUpTo? sizeLimit
  if value = 0 then none else some value

/-- The settings after an editor has sent some. They may stand under the wrapping key or on
their own. -/
def update (config : Config) (sent : Json) : Config :=
  let settings := (sent.get? wrapper).getD sent
  let within := fun (group key : String) => do (← settings.get? group).get? key
  { extension := ((settings.get? "sourceExtension").bind extension?).getD config.extension
    placeholder := ((settings.get? "pathPlaceholder").bind placeholder?).getD config.placeholder
    whenIdle := ((settings.get? "idleCompletion").bind Json.bool?).getD config.whenIdle
    documentation :=
      ((settings.get? "documentationDir").bind documentation?).getD config.documentation
    indentSize := ((settings.get? "indentSize").bind size?).getD config.indentSize
    capacity := ((settings.get? "contentCacheCapacity").bind size?).getD config.capacity
    builtins := ((within "builtins" "enabled").bind Json.bool?).getD config.builtins
    diagnostics := ((within "diagnostics" "enabled").bind Json.bool?).getD config.diagnostics
    severity := (((within "diagnostics" "unresolvedRequireSeverity").bind Json.text?).map
      Severity.ofWord).getD config.severity }

end Config

end LuaAssist

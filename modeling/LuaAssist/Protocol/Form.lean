import LuaAssist.Json
import LuaAssist.Uri

/-!
# Forms of values

A form says how a value in a message has to look. A value that has a form also has a plain
spelling, in which records are objects with the fields of the form and with nothing else.
-/

namespace LuaAssist.Protocol

/-- The largest number of 32 bits. -/
def wordLimit : Nat := 0xFFFFFFFF

/-- A natural number of 32 bits. -/
def word? (json : Json) : Option Nat := json.natUpTo? wordLimit

/-- A signed number of 32 bits. -/
def signed? (json : Json) : Option Int := do
  let value ← json.int?
  if -2147483648 ≤ value && value ≤ 2147483647 then some value else none

/-- An address. -/
def uri? (json : Json) : Option Uri := do Uri.parse? (← json.text?)

/-- A form, given by the plain spellings of the values that have it. -/
abbrev Form := Json → Option Json

namespace Form

/-- Any value. -/
def any : Form := some

/-- A value that can be read. It is spelled as it is. -/
def readable {α : Type} (read : Json → Option α) : Form := fun json => (read json).map fun _ => json

/-- A text. -/
def text : Form := readable Json.text?

/-- A truth value. -/
def bool : Form := readable Json.bool?

/-- A natural number of 32 bits. -/
def word : Form := readable word?

/-- A signed number of 32 bits. -/
def signed : Form := readable signed?

/-- An address. -/
def uri : Form := readable uri?

/-- Any number. -/
def number : Form
  | .int value => some (.int value)
  | .real written => some (.real written)
  | _ => none

/-- One of the given words. -/
def oneOf (words : List String) : Form := fun json => do
  let value ← json.text?
  if (words.map String.toList).contains value then some json else none

/-- A value of the first form that fits. -/
def either (first second : Form) : Form := fun json => first json <|> second json

/-- A list of values of one form. -/
def listOf (form : Form) : Form := fun json => do return .list (← (← json.list?).mapM form)

/-- Two values of one form. -/
def pairOf (form : Form) : Form := fun json => do
  match ← json.list? with
  | [first, second] => return .list [← form first, ← form second]
  | _ => none

/-- A field of a record. Where it is not needed it may be missing or null. -/
structure Field where
  key : String
  needed : Bool
  form : Form

/-- A field that has to be there. -/
def needed (key : String) (form : Form) : Field := ⟨key, true, form⟩

/-- A field that may be missing or null. -/
def optional (key : String) (form : Form) : Field := ⟨key, false, form⟩

/-- A field in its plain spelling, from its value, if there is one. -/
def Field.plain? (field : Field) (value : Option Json) : Option (List (Text × Json)) :=
  match field.needed, value with
  | true, none => none
  | false, none => some []
  | false, some .null => some []
  | _, some value => (field.form value).map fun plain => [(field.key.toList, plain)]

/-- An object with the given fields. Other fields are passed over. -/
def object (fields : List Field) : Form
  | .object known => do
    return .object (← fields.mapM fun field => field.plain? (known.lookup field.key.toList)).flatten
  | _ => none

/-- An object with the given fields, or a list of the values of all fields in their order. -/
def record (fields : List Field) : Form
  | .list values =>
    if values.length = fields.length then do
      return .object (← (fields.zip values).mapM fun (field, value) =>
        field.plain? (some value)).flatten
    else none
  | json => object fields json

/-! ## Common forms -/

/-- A position. -/
def position : Form := record [needed "line" word, needed "character" word]

/-- A range. -/
def range : Form := record [needed "start" position, needed "end" position]

/-- The document that a message is about. -/
def documentField : Field := needed "textDocument" (record [needed "uri" uri])

/-- A place in a document. -/
def placeFields : List Field := [documentField, needed "position" position]

/-- A name for the work on a request. -/
def token : Form := either signed text

/-- A request may name the work on it. -/
def workField : Field := optional "workDoneToken" token

/-- A request that may be answered in parts may name these, too. -/
def partFields : List Field := [workField, optional "partialResultToken" token]

/-- How lines are indented. Fields of any other name hold simple values. -/
def layout : Form := fun json => do
  let fields := [needed "tabSize" word, needed "insertSpaces" bool,
    optional "trimTrailingWhitespace" bool, optional "insertFinalNewline" bool,
    optional "trimFinalNewlines" bool]
  let plain ← object fields json
  match json with
  | .object known =>
    let others := known.filter fun (key, _) => !fields.any fun field => field.key.toList = key
    if others.all fun (_, value) => (either bool token value).isSome then some plain else none
  | _ => none

end Form

end LuaAssist.Protocol

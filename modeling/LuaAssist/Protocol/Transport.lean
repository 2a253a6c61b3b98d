import LuaAssist.Json.Printer
import LuaAssist.Json.Reader
import LuaAssist.Server
import LuaAssist.Text.Blank

/-!
# Messages on a stream

On a stream every message stands behind a header, which tells how many bytes it has. The
header ends with an empty line.
-/

namespace LuaAssist.Protocol

/-- A message that a value spells. -/
def message? (json : Json) : Option Message := do
  let method ← (← json.get? "method").text?
  return ⟨method, json.get? "id", json.get? "params"⟩

/-- The number of bytes that a line of a header tells; other lines tell none. -/
def contentLength? (line : Text) : Option Nat :=
  let name := "content-length:".toList
  if (line.map Char.toLower).take name.length = name then
    (String.ofList (Text.trim (line.drop name.length))).toNat?
  else none

/-- A value as it stands on a stream. -/
def framed (json : Json) : Text :=
  let body := json.render
  "Content-Length: ".toList ++ (Nat.repr (Text.utf8Length body)).toList ++ "\r\n\r\n".toList ++ body

/-- What is sent for a reply: the notifications, then the response. -/
def sent (reply : Reply) : List Json := reply.notifications ++ reply.response.toList

/-- The answer to a text that spells no value. -/
def unreadable : Json :=
  .ofFields [Server.format,
    ("error", .ofFields [("code", .int (-32700)), ("message", .ofString "Parse error")]),
    ("id", .null)]

end LuaAssist.Protocol

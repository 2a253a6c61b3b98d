import LuaAssist.CommandLine
import LuaAssist.Protocol.Transport
import LuaAssist.Session.Files

/-!
# The program

Reads the arguments, prints what they ask for, or serves on the standard streams. Before a
message is handled, the files that its answer can depend on are read into a tree.
-/

namespace LuaAssist.Program

/-- The bytes of a regular file, if there is one. -/
def readFile? (path : Path) : IO (Option (List UInt8)) := do
  if path.text.contains '\x00' then return none
  try
    let file := (← IO.currentDir) / String.ofList path.text
    let info ← file.metadata
    if info.type == .file then return some (← IO.FS.readBinFile file).toList
    return none
  catch _ => return none

/-- Reads files, and the files that these require, into a tree. Every file counts as younger
than the reading, so nothing old is ever served. -/
partial def load (rule : IndexRule) (tree : FileTree) (seen : List Path) :
    List Path → IO FileTree
  | [] => return tree
  | path :: rest => do
    if seen.contains path then load rule tree seen rest
    else match ← readFile? path with
      | none => load rule tree (path :: seen) rest
      | some bytes =>
        let further := match Text.ofUtf8? bytes with
          | some text => Index.placesFor rule (Index.normal path) text
          | none => []
        load rule (tree.write path ⟨bytes, 1⟩) (path :: seen) (rest ++ further)

/-- Takes a message. What the server would know after it tells which files are needed. -/
def take (message : Message) (server : Server) : IO (Option Reply × Server) := do
  let session := (server.handle .empty message).2.session
  let tree ← load session.index.rule .empty [] session.directFiles
  return server.handle tree message

/-- The number of bytes that the next header tells; none at the end of the stream. -/
partial def readHeader (input : IO.FS.Stream) (length : Nat) : IO (Option Nat) := do
  let line ← input.getLine
  if line.isEmpty then return none
  else if (Text.trim line.toList).isEmpty then return some length
  else readHeader input ((Protocol.contentLength? line.toList).getD length)

/-- The next bytes of a stream, as many as there are. -/
partial def readBytes (input : IO.FS.Stream) (count : Nat) (known : ByteArray) : IO ByteArray := do
  if count ≤ known.size then return known
  else
    let more ← input.read (count - known.size).toUSize
    if more.isEmpty then return known else readBytes input count (known ++ more)

/-- Sends a value. -/
def send (output : IO.FS.Stream) (json : Json) : IO Unit := do
  output.putStr (String.ofList (Protocol.framed json))
  output.flush

/-- Serves until the stream or the server has ended. -/
partial def serve (input output : IO.FS.Stream) (server : Server) : IO Unit := do
  match ← readHeader input 0 with
  | none => return
  | some length =>
    let bytes ← readBytes input length ByteArray.empty
    match (Text.ofUtf8? bytes.toList).bind Json.ofText? with
    | none =>
      send output Protocol.unreadable
      serve input output server
    | some json =>
      match Protocol.message? json with
      | none => serve input output server
      | some message =>
        let (reply, server) ← take message server
        for sent in (reply.map Protocol.sent).getD [] do
          send output sent
        if server.phase = .ended then return
        else serve input output server

/-- The directory of a user's data, if the environment tells one. -/
def dataHome? : IO (Option Path) := do
  match ← IO.getEnv "XDG_DATA_HOME" with
  | some home => if home.startsWith "/" then return some ⟨home.toList⟩
  | none => pure ()
  match ← IO.getEnv "HOME" with
  | some home => return some (Path.join ⟨home.toList⟩ ⟨".local/share".toList⟩)
  | none => return none

end LuaAssist.Program

/-- Does what the arguments ask for. -/
def main (arguments : List String) : IO UInt32 := do
  let command := LuaAssist.Command.ofArguments false (arguments.map String.toList)
  IO.print (String.ofList command.output)
  IO.eprint (String.ofList command.complaint)
  if command = .serve then
    let home ← LuaAssist.Program.dataHome?
    let config := LuaAssist.Config.default (home.map LuaAssist.Config.documentationUnder)
    LuaAssist.Program.serve (← IO.getStdin) (← IO.getStdout) (.new config)
  return command.status.toUInt32

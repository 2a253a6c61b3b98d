import LuaAssist.Server

/-!
# The command line

What the arguments of the program ask for, and what it prints. The first argument that
decides wins; serving is only chosen when none does.
-/

namespace LuaAssist

/-- What the program shall do. -/
inductive Command where
  | help
  | version
  | serve
  /-- An argument that nobody knows. -/
  | unknown (argument : Text)
  deriving DecidableEq, Repr

namespace Command

/-- What the arguments ask for, if serving was asked for so far or not. -/
def ofArguments (serving : Bool) : List Text → Command
  | [] => if serving then .serve else .help
  | argument :: rest =>
    if argument = "--stdio".toList then ofArguments true rest
    else if argument = "--version".toList then .version
    else if argument = "--help".toList then .help
    else .unknown argument

/-- The program's name and version. -/
def title : String := Server.name ++ " " ++ Server.version

/-- How the program is used. -/
def usage : List String :=
  [title ++ ", a heuristic Lua language server.",
   "",
   "Usage: luasense [OPTIONS]",
   "",
   "Available options:",
   "",
   "--stdio                      Start the LSP server using stdio transport",
   "--version                    Print the version",
   "--help                       Print this help message",
   "",
   "Set RUST_LOG (e.g. RUST_LOG=luasense=trace) to control logging on stderr.",
   ""]

/-- Lines as they are printed. -/
def printed (lines : List String) : Text := lines.flatMap fun line => line.toList ++ ['\n']

/-- What the program prints, where it does not serve. -/
def output : Command → Text
  | .help => printed usage
  | .version => printed [title]
  | _ => []

/-- What the program complains about. -/
def complaint : Command → Text
  | .unknown argument => "Error: Unknown argument: '".toList ++ argument ++ "'\n".toList
  | _ => []

/-- The exit status. -/
def status : Command → Nat
  | .unknown _ => 1
  | _ => 0

end Command

end LuaAssist

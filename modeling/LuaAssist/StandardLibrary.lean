import LuaAssist.Signature

/-!
# The standard library

The functions of the base library and of the library tables, written as the headers
that would define them and read by the rule for headers.
-/

namespace LuaAssist.StandardLibrary

/-- The functions without a table. -/
def base : List String :=
  ["assert(v, message)", "collectgarbage(opt, arg)", "dofile(filename)",
   "error(message, level)", "getmetatable(object)", "ipairs(t)",
   "load(chunk, chunkname, mode, env)", "loadfile(filename, mode, env)",
   "next(table, index)", "pairs(t)", "pcall(f, ...)", "print(...)", "rawequal(v1, v2)",
   "rawget(table, index)", "rawlen(v)", "rawset(table, index, value)", "require(modname)",
   "select(index, ...)", "setmetatable(table, metatable)", "tonumber(e, base)",
   "tostring(v)", "type(v)", "xpcall(f, msgh, ...)"]

/-- The table `string`. -/
def strings : List String :=
  ["byte(s, i, j)", "char(...)", "dump(func, strip)", "find(s, pattern, init, plain)",
   "format(formatstring, ...)", "gmatch(s, pattern)", "gsub(s, pattern, repl, n)", "len(s)",
   "lower(s)", "match(s, pattern, init)", "pack(fmt, v1, v2, ...)", "packsize(fmt)",
   "rep(s, n, sep)", "reverse(s)", "sub(s, i, j)", "unpack(fmt, s, pos)", "upper(s)"]

/-- The table `table`. -/
def tables : List String :=
  ["concat(list, sep, i, j)", "insert(list, pos, value)", "move(a1, f, e, t, a2)",
   "pack(...)", "remove(list, pos)", "sort(list, comp)", "unpack(list, i, j)"]

/-- The table `math`. -/
def mathematics : List String :=
  ["abs(x)", "acos(x)", "asin(x)", "atan(y, x)", "ceil(x)", "cos(x)", "deg(x)", "exp(x)",
   "floor(x)", "fmod(x, y)", "log(x, base)", "max(x, ...)", "min(x, ...)", "modf(x)",
   "rad(x)", "random(m, n)", "randomseed(x)", "sin(x)", "sqrt(x)", "tan(x)",
   "tointeger(x)", "type(x)", "ult(m, n)"]

/-- The table `os`. -/
def system : List String :=
  ["clock()", "date(format, time)", "difftime(t2, t1)", "execute(command)",
   "exit(code, close)", "getenv(varname)", "remove(filename)", "rename(oldname, newname)",
   "setlocale(locale, category)", "time(table)", "tmpname()"]

/-- The table `io`. -/
def files : List String :=
  ["close(file)", "flush()", "input(file)", "lines(filename, ...)",
   "open(filename, mode)", "output(file)", "popen(prog, mode)", "read(...)", "tmpfile()",
   "type(obj)", "write(...)"]

/-- The table `coroutine`. -/
def coroutines : List String :=
  ["create(f)", "isyieldable()", "resume(co, ...)", "running()", "status(co)", "wrap(f)",
   "yield(...)"]

/-- The library tables with their functions, in the order in which they are offered. -/
def libraries : List (String × List String) :=
  [("string", strings), ("table", tables), ("math", mathematics), ("os", system),
   ("io", files), ("coroutine", coroutines)]

/-- The names of the library tables. -/
def names : List Text := libraries.map fun (name, _) => name.toList

/-- The header that would define a function. -/
def header (owner : Text) (entry : String) : Text :=
  "function ".toList ++ owner ++ entry.toList

/-- The headers of all functions. -/
def headers : List Text :=
  base.map (header []) ++
    libraries.flatMap fun (name, entries) => entries.map (header (name.toList ++ ['.']))

/-- The functions of the standard library. They stand on no line. -/
def signatures : List Signature :=
  headers.filterMap fun line => Signature.ofLine? 0 line

end LuaAssist.StandardLibrary

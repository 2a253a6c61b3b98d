import LuaAssist.Path
import LuaAssist.Uri.Host
import LuaAssist.Uri.Segments

/-!
# Addresses of documents

An address is read by the rules that browsers follow: blanks around it and line breaks
in it do not count, schemes are lowercase, `.` and `..` are resolved, and characters that
may not stand in an address are written as percent signs with their bytes. Addresses
that name files turn into paths and back.
-/

namespace LuaAssist

/-- The way behind the scheme and the host: a hierarchy of segments, or any text. -/
inductive UriPath where
  | segments (all : List Text)
  | opaqueText (text : Text)
  deriving DecidableEq, Repr

/-- An address, every part in its final spelling. -/
structure Uri where
  scheme : Text
  /-- What follows two slashes, if it is there: user, host and port. -/
  authority : Option Text
  /-- The host alone. -/
  host : Option Text
  path : UriPath
  query : Option Text
  fragment : Option Text
  deriving DecidableEq, Repr

namespace Uri

/-- Drops spaces and control characters at both ends. -/
def trim (text : Text) : Text :=
  let outer := fun c : Char => decide (c.toNat ≤ 0x20)
  ((text.dropWhile outer).reverse.dropWhile outer).reverse

/-- Cuts a path from its query and its fragment. -/
def cutTail (special : Bool) (text : Text) : Text × Option Text × Option Text :=
  let (front, tail) := cutBefore (· = '#') text
  let (path, query) := cutBefore (· = '?') front
  (path, query.tail?.map fun query => escape (escapesQuery special) (counting query),
    tail.tail?.map fun fragment => escape escapesFragment (counting fragment))

/-- An address with an authority; the text starts behind its two slashes. With a sign for a
user, even if there is none, a host has to follow. -/
def withAuthority? (scheme text : Text) : Option Uri := do
  let special := isSpecial scheme
  let (front, behind) := cutBefore (fun c => isSlash special c || c = '?' || c = '#') text
  let (last, before) := cutBefore (· = '@') (counting front).reverse
  let name := last.reverse
  let login := before.tail.reverse
  let (host, port, rest) ← hostAndPort? scheme name
  let bareSign := !before.isEmpty && login.isEmpty && name.isEmpty && !behind.isEmpty
  if bareSign || (host.isEmpty && (special || !(user login).isEmpty)) then none
  else
    let (path, query, fragment) := cutTail special (rest ++ behind)
    some {
      scheme := scheme
      authority := some (user login ++ host ++ port)
      host := if host.isEmpty then none else some host
      path := .segments (Segments.afterHost scheme path).known
      query := query
      fragment := fragment }

/-- The address of a file on a host, or on this computer. A drive belongs to this computer. -/
def ofFile (host : Text) (segments : Segments) (query fragment : Option Text) : Uri :=
  let host := if segments.driven then [] else host
  { scheme := fileScheme
    authority := some host
    host := if host.isEmpty then none else some host
    path := .segments segments.known
    query := query
    fragment := fragment }

/-- The address of a file behind two slashes. A host that is this computer's own name counts as
none, and a drive is no host. -/
def fileWithHost? (text : Text) : Option Uri := do
  let (front, behind) := cutBefore (fun c => isSlash true c || c = '?' || c = '#') text
  let name := counting front
  let host ← if name.isEmpty || isDrive name then some [] else host? true name
  let known := host ≠ "localhost".toList && !host.isEmpty
  let (path, query, fragment) := cutTail true (if isDrive name then text else behind)
  let segments := if known then Segments.afterHost fileScheme path
    else Segments.ofText fileScheme path
  return ofFile (if known then host else []) segments query fragment

/-- The address of a file; the text starts behind the colon of the scheme. -/
def file? (text : Text) : Option Uri :=
  match afterSlashes? true text with
  | some behind => fileWithHost? behind
  | none =>
    let (path, query, fragment) := cutTail true text
    some (ofFile [] (Segments.ofText fileScheme ((afterSlash? true path).getD path))
      query fragment)

/-- An address without an authority. -/
def withoutAuthority (scheme text : Text) : Uri :=
  let (path, query, fragment) := cutTail false text
  let path := match afterSlash? false path with
    | some behind => .segments (Segments.ofText scheme behind).known
    | none => .opaqueText (escape escapesControl (counting path))
  ⟨scheme, none, none, path, query, fragment⟩

/-- Reads an address. A text without a scheme is none. -/
def parse? (text : Text) : Option Uri := do
  let (scheme, rest) ← scheme? (trim text)
  if scheme = fileScheme then file? rest
  else if isSpecial scheme then
    withAuthority? scheme (rest.dropWhile fun c => isIgnored c || isSlash true c)
  else
    match afterSlashes? false rest with
    | some behind => withAuthority? scheme behind
    | none => some (withoutAuthority scheme rest)

/-! ## Writing and files -/

/-- The written path. -/
def UriPath.render : UriPath → Text
  | .segments all => all.flatMap fun segment => '/' :: segment
  | .opaqueText text => text

/-- The final spelling of an address. -/
def render (uri : Uri) : Text :=
  let path := UriPath.render uri.path
  let authority := match uri.authority with
    | some authority => "//".toList ++ authority
    | none => if "//".toList.isPrefixOf path then "/.".toList else []
  uri.scheme ++ ':' :: authority ++ path ++
    (match uri.query with | some query => '?' :: query | none => []) ++
    (match uri.fragment with | some fragment => '#' :: fragment | none => [])

/-- A slash behind a drive that ends a path. -/
def closeDrive (path : Text) : Text :=
  match path.reverse with
  | sign :: letter :: _ :: _ =>
    if (sign = ':' || sign = '|') && letter.isAlpha then path ++ ['/'] else path
  | _ => path

/-- The path of the file that an address names, unless it has a foreign host or no
hierarchy. -/
def toPath? (uri : Uri) : Option Path :=
  match uri.path with
  | .opaqueText _ => none
  | .segments all =>
    if all.isEmpty || (uri.host.isSome && uri.host ≠ some "localhost".toList) then none
    else some ⟨closeDrive (all.flatMap fun segment =>
      '/' :: Text.ofUtf8Lossy (unescape segment))⟩

/-- The address of the file at an absolute path. -/
def ofPath? (path : Path) : Option Uri :=
  if !path.isAbsolute then none
  else
    let names := path.parts.tail.map fun part => escape escapesName part.text
    some ⟨fileScheme, some [], none, .segments (if names.isEmpty then [[]] else names), none, none⟩

end Uri

end LuaAssist

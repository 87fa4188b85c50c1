import TableMapper.Text.Letter
import TableMapper.Url.Host

/-!
# Addresses

* `Url` is the address of a server with what to look for there, in normal form.
* `Url.parse` reads one, `Url.text` writes it.
* `Url.setUser?`, `Url.setPassword?` and `Url.setPath` change a part.
-/

namespace TableMapper

namespace Url

/-- What stands between the double slash and the path. -/
structure Authority where
  /-- The user name with its escapes, possibly empty. -/
  user : String
  /-- The password with its escapes, possibly empty. -/
  password : String
  host : Host
  port : Option Nat

/-- The path of an address. -/
inductive Path where
  /-- A path that does not start at a root. -/
  | bare (text : String)
  /-- A path of segments, each of them after a slash. -/
  | rooted (segments : List String)

/-- The text of a path. -/
def Path.text : Path → String
  | .bare s => s
  | .rooted segments => String.join (segments.map ("/" ++ ·))

end Url

/-- An address. -/
structure Url where
  scheme : String
  authority : Option Url.Authority := none
  path : Url.Path
  query : Option String := none
  fragment : Option String := none

namespace Url

/-! ### Paths -/

/-- A segment that stands for its own place. -/
def isSingleDot (segment : String) : Bool := [".", "%2e"].contains (Text.lowerAscii segment)

/-- A segment that stands for the place above. -/
def isDoubleDot (segment : String) : Bool :=
  ["..", ".%2e", "%2e.", "%2e%2e"].contains (Text.lowerAscii segment)

/-- A segment that names a drive. -/
def isDrive (segment : String) : Bool :=
  match segment.toList with
  | a :: b :: rest =>
    Text.isLetter a && (b == ':' || b == '|') && (rest.isEmpty || rest.head? == some '\\')
  | _ => false

/-- The segments without the last one, unless it names a drive. -/
def up (segments : List String) : List String :=
  match segments.getLast? with
  | some s => if isDrive s then segments else segments.dropLast
  | none => []

/-- Resolves the dots in further segments of a path. -/
def resolve (path : List String) : List String → List String
  | [] => path
  | s :: rest =>
    if isDoubleDot s then
      if rest.isEmpty then up path ++ [""] else resolve (up path) rest
    else if isSingleDot s then
      if rest.isEmpty then path ++ [""] else resolve path rest
    else resolve (path ++ [s]) rest

/-- The path with these segments, between slashes. -/
def rootedPath (cs : List Char) : Path :=
  .rooted (resolve []
    ((cs.splitOn '/').map fun s => String.ofList (Percent.encodeChars Percent.inPath s)))

/-- The path that begins here: empty, or after a slash, which may be missing. -/
def startedPath : List Char → Path
  | [] => .rooted []
  | '/' :: cs => rootedPath cs
  | cs => rootedPath cs

/-! ### The authority -/

/-- The part before the last `@`, if there is one, and the part after it. -/
def cutUser (cs : List Char) : Option (List Char) × List Char :=
  match Text.cutWhere? (· == '@') cs.reverse with
  | some (back, front) => (some front.reverse, back.reverse)
  | none => (none, cs)

/-- The host, up to a colon that no bracket encloses, and the rest. -/
def cutHost (inside : Bool) : List Char → List Char × List Char
  | [] => ([], [])
  | c :: cs =>
    if c == ':' && !inside then ([], c :: cs)
    else
      let (host, rest) := cutHost (if c == '[' then true else if c == ']' then false else inside) cs
      (c :: host, rest)

/-- The port at the front: digits for a number of 16 bits, none for the default.  A backslash ends
it, anything else is refused. -/
def readPort (cs : List Char) : Except UrlError (Option Nat × List Char) :=
  let digits := cs.takeWhile Text.isDigit
  let rest := cs.dropWhile Text.isDigit
  let n := Text.decimalValue digits
  if 65535 < n then .error .port
  else if rest.isEmpty || rest.head? == some '\\' then
    .ok (if digits.isEmpty then none else some n, rest)
  else .error .port

/-- A user name or a password as it is kept. -/
def encodeUser (s : String) : String := Percent.encode Percent.inUser s

/-- User name and password: the text before and after the first colon. -/
def readUser (cs : List Char) : String × String :=
  let (user, password) := (Text.cutWhere? (· == ':') cs).getD (cs, [])
  (encodeUser (String.ofList user), encodeUser (String.ofList password))

/-- The authority at the front of a text, and the text of the path after it.  `more` says that a
query or fragment follows.  Credentials and a port belong to a host. -/
def readAuthority (more : Bool) (cs : List Char) : Except UrlError (Authority × Path) := do
  let head := cs.takeWhile (· != '/')
  let tail := cs.dropWhile (· != '/')
  let (login, place) := cutUser head
  if login == some [] && place.isEmpty && (more || !tail.isEmpty) then throw .emptyHost
  let (user, password) := readUser (login.getD [])
  let (hostText, portText) := cutHost false place
  let host ← Host.read hostText
  if host.isEmpty && !portText.isEmpty then throw .emptyHost
  let (port, rest) ← readPort (portText.drop 1)
  if host.isEmpty && !(user.isEmpty && password.isEmpty) then throw .emptyHost
  return ({ user, password, host, port }, startedPath (rest ++ tail))

/-! ### Whole addresses -/

/-- The characters that are dropped at the ends: controls and spaces. -/
def isOuter (c : Char) : Bool := c.toNat ≤ 0x20

/-- The characters that are dropped anywhere. -/
def isDropped (c : Char) : Bool := c == '\t' || c == '\n' || c == '\r'

/-- A text without the characters that do not count. -/
def clean (s : String) : List Char :=
  (((s.toList.dropWhile isOuter).reverse.dropWhile isOuter).reverse).filter (!isDropped ·)

/-- The characters of a scheme. -/
def isSchemeChar (c : Char) : Bool :=
  Text.isLetter c || Text.isDigit c || c == '+' || c == '-' || c == '.'

/-- The scheme at the front, in lower case, and what follows its colon. -/
def readScheme (cs : List Char) : Except UrlError (String × List Char) :=
  match cs.dropWhile isSchemeChar with
  | ':' :: rest =>
    if (cs.head?.map Text.isLetter).getD false then
      .ok (Text.lowerAscii (String.ofList (cs.takeWhile isSchemeChar)), rest)
    else .error .noScheme
  | _ => .error .noScheme

/-- The schemes of the web.  Their addresses have a host, after any number of slashes. -/
def webSchemes : List String := ["http", "https", "ws", "wss", "ftp"]

/-- What follows the scheme, without the first `p` and what comes after it, and that. -/
def cutOff (p : Char) (cs : List Char) : List Char × Option (List Char) :=
  match Text.cutWhere? (· == p) cs with
  | some (before, after) => (before, some after)
  | none => (cs, none)

/-- The address written like this. -/
def parse (s : String) : Except UrlError Url := do
  let (scheme, rest) ← readScheme (clean s)
  let (rest, fragment) := cutOff '#' rest
  let (rest, query) := cutOff '?' rest
  let more := fragment.isSome || query.isSome
  let query := query.map fun cs => String.ofList (Percent.encodeChars Percent.inQuery cs)
  let fragment := fragment.map fun cs =>
    String.ofList (Percent.encodeChars Percent.inFragment cs)
  if webSchemes.contains scheme then
    let slashed := rest.map fun c => if c == '\\' then '/' else c
    let (authority, path) ← readAuthority more (slashed.dropWhile (· == '/'))
    if authority.host.isEmpty then throw .emptyHost
    return { scheme, authority := some authority, path, query, fragment }
  match rest with
  | '/' :: '/' :: cs =>
    let (authority, path) ← readAuthority more cs
    return { scheme, authority := some authority, path, query, fragment }
  | '/' :: cs => return { scheme, path := rootedPath cs, query, fragment }
  | cs =>
    let path := .bare (String.ofList (Percent.encodeChars Percent.controls cs))
    return { scheme, path, query, fragment }

/-- The text of an authority, with the double slash before it. -/
def Authority.text (a : Authority) : String :=
  let login := a.user ++ (if a.password.isEmpty then "" else ":" ++ a.password)
  "//" ++ (if login.isEmpty then "" else login ++ "@") ++ a.host.text ++
    (match a.port with
    | some n => ":" ++ toString n
    | none => "")

/-- The text of an address.  Without an authority, a path that begins with two slashes is told
apart from one by a dot. -/
def text (u : Url) : String :=
  let place := match u.authority with
    | some a => a.text ++ u.path.text
    | none => (if Text.startsWith "//" u.path.text then "/." else "") ++ u.path.text
  u.scheme ++ ":" ++ place ++ (match u.query with
    | some q => "?" ++ q
    | none => "") ++ (match u.fragment with
    | some f => "#" ++ f
    | none => "")

/-- The host, if there is one. -/
def host? (u : Url) : Option Host := (u.authority.map (·.host)).filter (!·.isEmpty)

/-- The address with its authority changed; `none` without a host. -/
def updateAuthority? (u : Url) (f : Authority → Authority) : Option Url :=
  match u.authority with
  | some a => if a.host.isEmpty then none else some { u with authority := some (f a) }
  | none => none

/-- The address with another user name.  A name that is there already, as written, stays. -/
def setUser? (u : Url) (user : String) : Option Url :=
  u.updateAuthority? fun a => if a.user == user then a else { a with user := encodeUser user }

/-- The address with another password, without one for the empty password. -/
def setPassword? (u : Url) (password : String) : Option Url :=
  u.updateAuthority? fun a => { a with password := encodeUser password }

/-- The address with another path, of which a missing slash at the front is supplied.  A text that
begins like a query or a fragment is no path. -/
def setPath (u : Url) (path : String) : Url :=
  let cs := path.toList.filter (!isDropped ·)
  if cs.head? == some '?' || cs.head? == some '#' then { u with path := .rooted [] }
  else { u with path := startedPath cs }

/-- The address with another query.  A path without root that ends the address ends in no
space. -/
def setQuery (u : Url) (query : Option String) : Url :=
  let path := match u.path with
    | .bare s =>
      if query.isNone && u.fragment.isNone then
        .bare (String.ofList ((s.toList.reverse.dropWhile (· == ' ')).reverse))
      else u.path
    | p => p
  { u with path, query }

end Url

end TableMapper

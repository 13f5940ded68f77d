import Tailnet.Http.Host
import Tailnet.Integer.Numeral
import Tailnet.Text.Encoding

/-!
URLs in their normal form: scheme and host in small letters, no default port, no dot segments in the
path of a full one, and escapes for all characters that need one.
-/

namespace Tailnet.Http

/-- The parts of a URL. Of an address in brackets only the address is kept. -/
structure Url where
  scheme : String
  user : String
  host : String
  port : Option Int
  path : String
  query : Option String
  fragment : Option String
deriving DecidableEq, Repr

/-- What is wrong with a URL, as a whole or in a part of it. -/
inductive UrlFault where
  | tooLong (part : Option String)
  | control (part : Option String) (c : Char) (position : Nat)
  | host (cause : HostFault)
  | port (written : String)
  | pathAfterHost
  | pathWithSlashes
  | pathWithColon
deriving DecidableEq, Repr

def UrlFault.message : UrlFault → String
  | tooLong none => "URL too long"
  | tooLong (some part) => "URL component '" ++ part ++ "' too long"
  | control part c position =>
    "Invalid non-printable ASCII character in URL" ++
      (match part with
        | some name => " " ++ name ++ " component"
        | none => "") ++
      ", " ++ Text.quoted (String.ofList [c]) ++ " at position " ++ toString position ++ "."
  | .host cause => cause.message
  | .port written => "Invalid port: " ++ Text.quoted written
  | pathAfterHost => "For absolute URLs, path must be empty or begin with '/'"
  | pathWithSlashes => "Relative URLs cannot have a path starting with '//'"
  | pathWithColon => "Relative URLs cannot have a path starting with ':'"

namespace Url

def place (url : Url) : String :=
  (if url.host.toList.contains ':' then "[" ++ url.host ++ "]" else url.host) ++
    (match url.port with
      | some n => ":" ++ toString n
      | none => "")

/-- The part of a URL between two slashes and the path. -/
def authority (url : Url) : String :=
  (if url.user = "" then "" else url.user ++ "@") ++ url.place

def target (url : Url) : String :=
  url.path ++ (match url.query with
    | some query => "?" ++ query
    | none => "")

def text (url : Url) : String :=
  (if url.scheme = "" then "" else url.scheme ++ ":") ++
    (if url.authority = "" then "" else "//" ++ url.authority) ++ url.target ++
    (match url.fragment with
      | some fragment => "#" ++ fragment
      | none => "")

/-- Whether a URL says by itself where something is. -/
def isFull (url : Url) : Bool := url.scheme != "" && url.host != ""

/-! Characters. -/

/-- Whether a character is visible ASCII, apart from the given ones. -/
def isVisibleBut (others : List Char) (c : Char) : Bool :=
  0x20 < c.toNat && c.toNat < 0x7F && !others.contains c

/-- The characters that stand for themselves in a path. -/
def isPathChar : Char → Bool := isVisibleBut ['"', '#', '<', '>', '?', '\x60', '\x7b', '\x7d']

/-- The characters that stand for themselves in a query. -/
def isQueryChar : Char → Bool := isVisibleBut ['"', '#', '<', '>']

/-- The characters that stand for themselves in a fragment. -/
def isFragmentChar : Char → Bool := isVisibleBut ['"', '<', '>', '\x60']

/-- The characters that stand for themselves in a name or a password. -/
def isUserChar (c : Char) : Bool :=
  isPathChar c && !(['/', ';', '=', '@', '[', '\\', ']', '^', '|'].contains c)

def isControl (c : Char) : Bool := c.toNat < 0x20 || c.toNat == 0x7F

/-- The length that neither a URL nor a part of it exceeds. -/
def maxLength : Nat := 65536

def check (part : Option String) (cs : List Char) : Except UrlFault Unit :=
  if maxLength < cs.length then .error (.tooLong part)
  else
    match cs.findIdx? isControl with
    | some index => .error (.control part (cs.getD index ' ') index)
    | none => .ok ()

/-! Paths. -/

/-- Go along the segments of a path: a dot stays where it is, two dots lead back. The segments so
far are given with the last one first. -/
def walkSegments : List String → List String → List String
  | walked, [] => walked.reverse
  | walked, "." :: rest => walkSegments walked rest
  | walked, ".." :: rest =>
    walkSegments (if walked.isEmpty || walked == [""] then walked else walked.drop 1) rest
  | walked, part :: rest => walkSegments (part :: walked) rest

def withoutDots (path : String) : String :=
  Text.joinWith "/" (walkSegments [] (Text.parts '/' path))

def checkPath (hasScheme hasAuthority : Bool) (path : List Char) : Except UrlFault Unit :=
  if hasAuthority && !path.isEmpty && path.head? != some '/' then .error .pathAfterHost
  else if !hasScheme && !hasAuthority then
    if path.take 2 == ['/', '/'] then .error .pathWithSlashes
    else if path.head? == some ':' then .error .pathWithColon
    else .ok ()
  else .ok ()

/-! Reading. -/

/-- The scheme at the beginning of a text, and the characters behind its colon. -/
def splitScheme (cs : List Char) : List Char × List Char :=
  match Text.cutFirst? ':' cs with
  | some (before, after) =>
    let isScheme := (before.headD 'a').isAlpha && before.all fun c =>
      c.isAlphanum || c == '+' || c == '.' || c == '-'
    if isScheme then (before, after) else ([], cs)
  | none => ([], cs)

def defaultPorts : List (String × Int) :=
  [("ftp", 21), ("http", 80), ("https", 443), ("ws", 80), ("wss", 443)]

def portBeside (scheme : String) (port : Option Int) : Option Int :=
  port.filter fun n => defaultPorts.lookup scheme != some n

def readPort (cs : List Char) : Except UrlFault (Option Int) :=
  if cs.isEmpty then .ok none
  else
    match Integer.read (String.ofList cs) with
    | .ok n => .ok (some n)
    | .error _ => .error (.port (String.ofList cs))

/-- The end of a host: behind its brackets if it has any, else before the first colon. -/
def splitHost (cs : List Char) : List Char × List Char :=
  match cs, Text.cutLast? ']' cs with
  | '[' :: _, some (inside, after) => (inside ++ [']'], after)
  | _, _ => cs.span (· != ':')

/-- A URL as it is written, in parts. -/
structure Draft where
  scheme : List Char
  user : List Char
  host : List Char
  port : List Char
  path : List Char
  query : Option (List Char)
  fragment : Option (List Char)

/-- The parts of a text. Any text has some. -/
def Draft.ofChars (cs : List Char) : Draft :=
  let (scheme, rest) := splitScheme cs
  let (authority, rest) := match rest with
    | '/' :: '/' :: rest => rest.span fun c => !("/?#".toList.contains c)
    | rest => ([], rest)
  let (path, rest) := rest.span fun c => c != '?' && c != '#'
  let (query, rest) := match rest with
    | '?' :: rest => (some (rest.takeWhile (· != '#')), rest.dropWhile (· != '#'))
    | rest => (none, rest)
  let (user, rest') := (Text.cutLast? '@' authority).getD ([], authority)
  let (host, after) := splitHost rest'
  { scheme, user, host
    port := if after.head? = some ':' then after.drop 1 else after
    path, query
    fragment := if rest.isEmpty then none else some (rest.drop 1) }

/-- Bring the parts of a URL into normal form. The default port is that of the scheme as it is
written. -/
def ofDraft (draft : Draft) : Except UrlFault Url := do
  let written := String.ofList draft.scheme
  let scheme := written.map Char.toLower
  let user := String.ofList (escapeMore isUserChar draft.user)
  let host ← (Host.normalize draft.host).mapError .host
  let port := portBeside written (← readPort draft.port)
  let hasAuthority := user != "" || host != "" || port.isSome
  checkPath (scheme != "") hasAuthority draft.path
  let path := String.ofList draft.path
  let path := if scheme != "" || hasAuthority then withoutDots path else path
  return {
    scheme, user, host, port
    path := String.ofList (escapeMore isPathChar path.toList)
    query := draft.query.map fun query => String.ofList (escapeMore isQueryChar query)
    fragment :=
      draft.fragment.map fun fragment => String.ofList (escapeMore isFragmentChar fragment) }

def read (s : String) : Except UrlFault Url := do
  check none s.toList
  ofDraft (Draft.ofChars s.toList)

/-! Changes. -/

/-- A URL that was put together from parts: each is checked again, and the default port is that of
the scheme in small letters. -/
def rebuild (url : Url) : Except UrlFault Url := do
  check (some "scheme") url.scheme.toList
  check (some "authority") url.authority.toList
  check (some "path") url.path.toList
  for query in url.query do
    check (some "query") query.toList
  for fragment in url.fragment do
    check (some "fragment") fragment.toList
  return { url with port := portBeside url.scheme url.port }

def withQuery (url : Url) (query : Option String) : Except UrlFault Url :=
  rebuild { url with query }

/-- What a URL that is not full asks for: its path from the root, and its query. -/
def fromRoot (url : Url) : Except UrlFault Url :=
  rebuild {
    scheme := "", user := "", host := "", port := none
    path := "/" ++ String.ofList (url.path.toList.dropWhile (· == '/'))
    query := url.query, fragment := none }

def plain (part : String) : String := String.ofList (Text.ofBytes (unescape part.toList))

/-- The name and the password in a URL, if it has any. -/
def credentials? (url : Url) : Option (String × String) :=
  let (name, password) := (Text.cutFirst? ':' url.user.toList).getD (url.user.toList, [])
  if name.isEmpty && password.isEmpty then none
  else some (plain (String.ofList name), plain (String.ofList password))

end Url

end Tailnet.Http

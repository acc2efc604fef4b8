import DeploySync.Url.Host

/-!
# URLs

A URL is read from a text by the rules of the URL standard: blanks around it are dropped, the
scheme and the host are written in lower case, the standard port is left out, and the dot segments
of a path are resolved. URLs can be extended by path segments and by query parameters.

## Main definitions

* `Url` — the parts of a URL
* `Url.text` — how it is written
* `Url.parse` — reading
* `Url.addSegments?`, `Url.addParameter` — extending
-/

namespace DeploySync

/-- The path of a URL: segments, or a text without structure, such as the address of a mail. -/
inductive UrlPath where
  | segments (segments : List (List Char))
  | opaqueText (text : List Char)
  deriving DecidableEq, Repr

/-- The parts of a URL, each as it is written. A URL without a host, such as one of a mail
address, has no host at all; one of a local file has an empty host. -/
structure Url where
  scheme : List Char
  userinfo : List Char := []
  host : Option (List Char)
  port : Option Nat := none
  path : UrlPath
  query : Option (List Char) := none
  fragment : Option (List Char) := none
  deriving DecidableEq, Repr

namespace Url

/-- The standard ports of the schemes whose URLs have a common structure. -/
def standardPort? (scheme : List Char) : Option Nat :=
  if scheme == "http".toList || scheme == "ws".toList then some 80
  else if scheme == "https".toList || scheme == "wss".toList then some 443
  else if scheme == "ftp".toList then some 21
  else none

/-- The URL is one of a local file. -/
def isFileScheme (scheme : List Char) : Bool := scheme == "file".toList

/-- The scheme is one whose URLs have a common structure. -/
def isSpecial (scheme : List Char) : Bool :=
  (standardPort? scheme).isSome || isFileScheme scheme

/-- How a path is written. -/
def pathText : UrlPath → List Char
  | .segments ss => ss.flatMap ('/' :: ·)
  | .opaqueText t => t

/-- How the user name, the host and the port are written. -/
def authority (u : Url) : List Char :=
  match u.host with
  | none => []
  | some host =>
    let userinfo := if u.userinfo.isEmpty then [] else u.userinfo ++ ['@']
    let port := match u.port with
      | some n => ':' :: Nat.toDigits 10 n
      | none => []
    ['/', '/'] ++ userinfo ++ host ++ port

/-- How a URL is written. -/
def chars (u : Url) : List Char :=
  let part (mark : Char) : Option (List Char) → List Char
    | some s => mark :: s
    | none => []
  let path := pathText u.path
  -- without a host, a path may not begin like one
  let guarded := if u.host.isNone && ['/', '/'].isPrefixOf path then ['/', '.'] ++ path else path
  u.scheme ++ ':' :: u.authority ++ guarded ++ part '?' u.query ++ part '#' u.fragment

/-- How a URL is written. -/
def text (u : Url) : String := String.ofList u.chars

/-- The scheme as a text. -/
def schemeText (u : Url) : String := String.ofList u.scheme

/-! ### Reading -/

private def isTrimmed (c : Char) : Bool := c.toNat ≤ 0x20

/-- A tab or a line break, which is dropped wherever it stands. -/
def isIgnored (c : Char) : Bool := c == '\t' || c == '\n' || c == '\r'

private def isSlash (special : Bool) (c : Char) : Bool := c == '/' || (special && c == '\\')

/-- Cuts a text in front of the first character of a class. -/
def cutBefore (p : Char → Bool) (s : List Char) : List Char × List Char :=
  (s.takeWhile (! p ·), s.dropWhile (! p ·))

/-- Reads the scheme in front of the first colon. -/
def readScheme? (s : List Char) : Option (List Char × List Char) :=
  let (scheme, rest) := cutBefore (· == ':') s
  let isSchemeChar (c : Char) : Bool :=
    Text.isLetter c || Text.isDigit c || c == '+' || c == '-' || c == '.'
  match rest with
  | [] => none
  | _ :: rest =>
    if (scheme.head?.any Text.isLetter) && scheme.all isSchemeChar then
      some (scheme.map Text.lower, rest)
    else none

/-- A segment for one level up. -/
def isDoubleDot (segment : List Char) : Bool :=
  ["..", ".%2e", "%2e.", "%2e%2e"].contains (String.ofList (segment.map Text.lower))

/-- A segment for the same level. -/
def isSingleDot (segment : List Char) : Bool :=
  [".", "%2e"].contains (String.ofList (segment.map Text.lower))

/-- Resolves the dot segments of a path, behind the segments that already stand. -/
def resolveDots : (before : List (List Char)) → List (List Char) → List (List Char)
  | before, [] => before
  | before, segment :: rest =>
    let last := if rest.isEmpty then [[]] else []
    if isDoubleDot segment then resolveDots (before.dropLast ++ last) rest
    else if isSingleDot segment then resolveDots (before ++ last) rest
    else resolveDots (before ++ [segment]) rest

/-- Cuts a path at its slashes. -/
def splitPath (special : Bool) (s : List Char) : List (List Char) :=
  Text.split '/' (s.map fun c => if isSlash special c then '/' else c)

/-- Reads a path that begins with a slash, or is empty. -/
def readPath (special : Bool) (s : List Char) : List (List Char) :=
  match s with
  | [] => if special then [[]] else []
  | c :: rest =>
    let body := if isSlash special c then rest else s
    resolveDots [] ((splitPath special body).map (encodeWith inPath))

/-- Reads a user name and a password. -/
def readUserinfo (s : List Char) : List Char :=
  let (name, rest) := cutBefore (· == ':') s
  let password := rest.tail
  let colon := if password.isEmpty then [] else [':']
  encodeWith inUserinfo name ++ colon ++ encodeWith inUserinfo password

/-- Cuts at the last at sign. -/
def cutLastAt? (s : List Char) : Option (List Char × List Char) :=
  match Text.cut? '@' s.reverse with
  | some (after, before) => some (before.reverse, after.reverse)
  | none => none

/-- The number of characters of a host: it ends at a colon outside of brackets. -/
def hostLength (inBrackets : Bool) : List Char → Nat
  | [] => 0
  | c :: rest =>
    if c == ':' && ! inBrackets then 0
    else
      hostLength (if c == '[' then true else if c == ']' then false else inBrackets) rest + 1

/-- Reads the port behind its colon. -/
def readPort (scheme : List Char) (s : List Char) : Except Fault (Option Nat) :=
  if ! s.all Text.isDigit || 65535 < Text.decimalValue s then .error .invalidPort
  else if s.isEmpty || standardPort? scheme == some (Text.decimalValue s) then .ok none
  else .ok (some (Text.decimalValue s))

/-- Reads what stands between the two slashes and the path. -/
def readAuthority (scheme s : List Char) : Except Fault (List Char × List Char × Option Nat) :=
  let special := isSpecial scheme
  let (userinfo, rest) := match cutLastAt? s with
    | some (user, rest) => (readUserinfo user, rest)
    | none => ([], s)
  let n := hostLength false rest
  let host := rest.take n
  let port := rest.drop n
  if host.isEmpty && (special || ! port.isEmpty || ! userinfo.isEmpty) then .error .emptyHost
  else
    match if special then Host.parse host else Host.parseOpaque host with
    | .error e => .error e
    | .ok host =>
      match readPort scheme port.tail with
      | .error e => .error e
      | .ok port => .ok (userinfo, host, port)

/-- Reads the host of the URL of a local file. -/
def readFileHost (s : List Char) : Except Fault (List Char) :=
  if s.isEmpty then .ok []
  else
    match Host.parse s with
    | .ok host => .ok (if host == "localhost".toList then [] else host)
    | .error e => .error e

/-- Reads what stands behind the scheme, the query and the fragment cut off. -/
def readBody (scheme s : List Char) : Except Fault Url :=
  let special := isSpecial scheme
  let slash := isSlash special
  if isFileScheme scheme then
    let count := (s.takeWhile slash).length
    if 2 ≤ count then
      let (host, path) := cutBefore slash (s.drop 2)
      match readFileHost host with
      | .error e => .error e
      | .ok host => .ok ⟨scheme, [], some host, none, .segments (readPath true path), none, none⟩
    else .ok ⟨scheme, [], some [], none, .segments (readPath true s), none, none⟩
  else if special || ['/', '/'].isPrefixOf s then
    let rest := if special then s.dropWhile slash else s.drop 2
    let (authority, path) := cutBefore slash rest
    match readAuthority scheme authority with
    | .error e => .error e
    | .ok (userinfo, host, port) =>
      .ok ⟨scheme, userinfo, some host, port, .segments (readPath special path), none, none⟩
  else if s.head? == some '/' then
    .ok ⟨scheme, [], none, none, .segments (readPath false s), none, none⟩
  else .ok ⟨scheme, [], none, none, .opaqueText (encodeWith isAlwaysEscaped s), none, none⟩

/-- Reads a URL. -/
def parse (s : String) : Except Fault Url :=
  let trimmed := ((s.toList.dropWhile isTrimmed).reverse.dropWhile isTrimmed).reverse
  match readScheme? (trimmed.filter (! isIgnored ·)) with
  | none => .error .noScheme
  | some (scheme, rest) =>
    let (front, fragment) := cutBefore (· == '#') rest
    let (body, query) := cutBefore (· == '?') front
    match readBody scheme body with
    | .error e => .error e
    | .ok u =>
      .ok { u with
        query := query.tail? |>.map (encodeWith (inQuery (isSpecial scheme)))
        fragment := fragment.tail? |>.map (encodeWith inFragment) }

/-! ### Extending -/

/-- Adds a segment to a path. Dot segments are left out; tabs and line breaks are dropped, and
what then is a dot segment is resolved; all other characters that a segment cannot hold are
escaped, the slash among them. -/
def addSegment (special : Bool) (path : List (List Char)) (segment : List Char) :
    List (List Char) :=
  if segment == ['.'] || segment == ['.', '.'] then path
  else
    let kept := segment.filter (! isIgnored ·)
    if kept == ['.'] then path ++ [[]]
    else if kept == ['.', '.'] then path.dropLast ++ [[]]
    else path ++ [encodeWith (inSegment special) kept]

/-- Adds segments behind the path; an empty last segment gives way. A URL whose path has no
structure takes none. -/
def addSegments? (u : Url) (segments : List (List Char)) : Option Url :=
  match u.path with
  | .opaqueText _ => none
  | .segments path =>
    let path := if path.getLast? == some [] then path.dropLast else path
    some { u with path := .segments (segments.foldl (addSegment (isSpecial u.scheme)) path) }

/-- Adds a parameter behind the query. -/
def addParameter (u : Url) (name value : List Char) : Url :=
  let item := formEncode name ++ '=' :: formEncode value
  let query := match u.query with
    | none => item
    | some [] => item
    | some before => before ++ '&' :: item
  { u with query := some query }

/-- The URL as it is sent: without user name and password. -/
def withoutUserinfo (u : Url) : Url := { u with userinfo := [] }

end Url

end DeploySync

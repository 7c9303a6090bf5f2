import RichChat.Text.Lines
import RichChat.Url.Host

/-!
# URLs

A URL has a scheme, perhaps an authority, a path, and perhaps a query and a fragment. The path of
most URLs is a list of segments (`Path.segments`), each written after a slash; some, such as those
of mail addresses, are one opaque text. `ofString?` reads a URL into its normal form, `toString`
writes it, and `extendPath` and `addQueryPair` edit it.
-/

namespace RichChat

inductive UrlPath
  | segments (parts : List (List Char))
  | opaquePath (text : List Char)
  deriving DecidableEq, Inhabited

structure Url where
  scheme : List Char
  /-- User info, host and port, as they are written after two slashes. -/
  authority : Option (List Char)
  path : UrlPath
  query : Option (List Char)
  fragment : Option (List Char)
  deriving DecidableEq, Inhabited

namespace Url

open RichChat.Text

/-- Schemes whose URLs have a host and whose paths take a backslash for a slash. -/
def isSpecialScheme (scheme : List Char) : Bool :=
  ["http", "https", "ws", "wss", "ftp", "file"].any fun s => s.toList == scheme

def defaultPort? (scheme : List Char) : Option Nat :=
  if scheme == "http".toList || scheme == "ws".toList then some 80
  else if scheme == "https".toList || scheme == "wss".toList then some 443
  else if scheme == "ftp".toList then some 21
  else none

def isFile (scheme : List Char) : Bool := scheme == "file".toList

/-- Whether a character ends the authority. -/
def endsAuthority (special : Bool) (c : Char) : Bool :=
  c == '/' || c == '?' || c == '#' || (special && c == '\\')

/-- A segment that stands for the one it is in. -/
def isSingleDot (segment : List Char) : Bool :=
  let s := segment.map Char.toLower
  s == ['.'] || s == "%2e".toList

/-- A segment that stands for the one above it. -/
def isDoubleDot (segment : List Char) : Bool :=
  let s := segment.map Char.toLower
  s == "..".toList || s == ".%2e".toList || s == "%2e.".toList || s == "%2e%2e".toList

/-- A letter and a colon or bar, as a path on a disk may start. -/
def isDriveLetter : List Char → Bool
  | [c, d] => c.isAlpha && (d == ':' || d == '|')
  | _ => false

/-- Leaves the last segment, unless it is the drive of a file. -/
def shorten (file : Bool) (segments : List (List Char)) : List (List Char) :=
  match segments with
  | [s] => if file && isDriveLetter s then segments else []
  | _ => segments.dropLast

/-- The segments of a path without dots, `done` being those before. A dot at the end leaves an empty
segment. -/
def resolve (file : Bool) (done : List (List Char)) : List (List Char) → List (List Char)
  | [] => done
  | s :: rest =>
    if isDoubleDot s then
      let up := shorten file done
      resolve file (if rest.isEmpty then up ++ [[]] else up) rest
    else if isSingleDot s then
      resolve file (if rest.isEmpty then done ++ [[]] else done) rest
    else if file && done.isEmpty && isDriveLetter s then
      resolve file (done ++ [[s.headD 'c', ':']]) rest
    else resolve file (done ++ [s]) rest

/-- A file's path has no empty segments in front. -/
def trimFilePath (file : Bool) (segments : List (List Char)) : List (List Char) :=
  if file then
    match segments.dropWhile List.isEmpty with
    | [] => [[]]
    | rest => rest
  else segments

/-- The text cut at slashes, and at backslashes in a special URL. -/
def cutPath (special : Bool) (cs : List Char) : List (List Char) :=
  splitAt '/' (if special then cs.map fun c => if c = '\\' then '/' else c else cs)

/-- The path after its first slash. -/
def readSegments (scheme : List Char) (cs : List Char) : List (List Char) :=
  let file := isFile scheme
  let parts := (cutPath (isSpecialScheme scheme) cs).map (encode inPathSet)
  trimFilePath file (resolve file [] parts)

/-- The text up to a question mark or number sign, and the rest. -/
def spanPath (cs : List Char) : List Char × List Char :=
  cs.span fun c => c ≠ '?' && c ≠ '#'

/-- The query and the fragment. -/
def readEnd (special : Bool) (cs : List Char) : Option (List Char) × Option (List Char) :=
  let fragment : List Char → Option (List Char)
    | '#' :: f => some (encode inFragmentSet f)
    | _ => none
  match cs with
  | '?' :: r =>
    let (q, f) := r.span (· ≠ '#')
    (some (encode (if special then inSpecialQuerySet else inQuerySet) q), fragment f)
  | _ => (none, fragment cs)

/-- The part of the authority before the last `@`, and the part after it. -/
def splitUserInfo (authority : List Char) : Option (List Char) × List Char :=
  match authority.reverse.span (· ≠ '@') with
  | (_, []) => (none, authority)
  | (host, _ :: user) => (some user.reverse, host.reverse)

/-- User info as it is written: a name, a password after a colon, and an `@`. -/
def userInfoChars (info : List Char) : List Char :=
  let (name, rest) := info.span (· ≠ ':')
  let password := rest.drop 1
  let written := encode inUserInfoSet name
    ++ if password.isEmpty then [] else ':' :: encode inUserInfoSet password
  if written.isEmpty then [] else written ++ ['@']

/-- The host before the colon that is not inside brackets, and what follows it. -/
def spanHost (bracketed : Bool) : List Char → List Char × List Char
  | [] => ([], [])
  | c :: cs =>
    if c = ':' && !bracketed then ([], c :: cs)
    else
      let (host, rest) := spanHost ((bracketed || c == '[') && c != ']') cs
      (c :: host, rest)

/-- The port after its colon, left out when it is the scheme's own. -/
def readPort? (scheme : List Char) (cs : List Char) : Option (List Char) :=
  match cs with
  | [] => some []
  | _ :: ds =>
    if ds.isEmpty then some []
    else match readNat? 10 ds with
      | some n =>
        if 65535 < n then none
        else some (if defaultPort? scheme = some n then [] else ':' :: (toString n).toList)
      | none => none

/-- The authority in its normal form. -/
def readAuthority? (scheme : List Char) (cs : List Char) : Option (List Char) := do
  let special := isSpecialScheme scheme
  let (info, rest) := splitUserInfo cs
  let (host, port) := spanHost false rest
  if special ∧ host.isEmpty then none
  else
    let host ← if special then readHost? host else readOpaqueHost? host
    let user := (info.map userInfoChars).getD []
    if host.isEmpty ∧ (info.isSome ∨ ¬ port.isEmpty) then none
    else
      let port ← readPort? scheme port
      return user ++ host ++ port

/-- The authority and the path of a file. Its host may be missing, and `localhost` is left out. -/
def readFile? (cs : List Char) : Option (List Char × List Char) :=
  let isSlash (c : Char) : Bool := c == '/' || c == '\\'
  match cs with
  | a :: b :: r =>
    if isSlash a && isSlash b then
      let (host, path) := r.span fun c => !endsAuthority true c
      if host.isEmpty || isDriveLetter host then some ([], r)
      else (readHost? host).map fun h =>
        (if h == "localhost".toList then [] else h, path)
    else some ([], cs)
  | _ => some ([], cs)

/-- A path without the slash that it may start with. -/
def withoutSlash (special : Bool) : List Char → List Char
  | c :: cs => if c = '/' || (special && c == '\\') then cs else c :: cs
  | [] => []

/-- What follows the scheme and its colon. -/
def readRest? (scheme : List Char) (cs : List Char) : Option Url :=
  let special := isSpecialScheme scheme
  let finish (authority : Option (List Char)) (path : UrlPath) (rest : List Char) : Url :=
    let (query, fragment) := readEnd special rest
    { scheme, authority, path, query, fragment }
  let hierarchical (authority : List Char) (cs : List Char) : Url :=
    let (path, rest) := spanPath cs
    let parts := if path.isEmpty && !special then [] else
      readSegments scheme (withoutSlash special path)
    finish (some authority) (.segments parts) rest
  if isFile scheme then
    (readFile? cs).map fun (host, r) => hierarchical host r
  else if special then
    let r := cs.dropWhile fun c => c == '/' || c == '\\'
    let (authority, r) := r.span fun c => !endsAuthority true c
    (readAuthority? scheme authority).map fun a => hierarchical a r
  else match cs with
    | '/' :: '/' :: r =>
      let (authority, r) := r.span fun c => !endsAuthority false c
      (readAuthority? scheme authority).map fun a => hierarchical a r
    | '/' :: r =>
      let (path, rest) := spanPath r
      some (finish none (.segments (readSegments scheme path)) rest)
    | _ =>
      let (path, rest) := spanPath cs
      some (finish none (.opaquePath (encode isControl path)) rest)

/-- The scheme in lower case, and what follows its colon. -/
def readScheme? (cs : List Char) : Option (List Char × List Char) :=
  match cs with
  | c :: _ =>
    if c.isAlpha then
      match cs.span fun c => c.isAlphanum || c == '+' || c == '-' || c == '.' with
      | (scheme, ':' :: rest) => some (scheme.map Char.toLower, rest)
      | _ => none
    else none
  | [] => none

/-- The text without controls and blanks at its ends, and without line ends and tabs inside. -/
def cleaned (cs : List Char) : List Char :=
  let isEdge (c : Char) : Bool := c.toNat ≤ 0x20
  ((cs.dropWhile isEdge).reverse.dropWhile isEdge).reverse.filter fun c =>
    c ≠ '\t' && c ≠ '\n' && c ≠ '\r'

/-- The URL that a text is, if it names its scheme and has a valid host. -/
def ofString? (text : String) : Option Url :=
  (readScheme? (cleaned text.toList)).bind fun (scheme, rest) => readRest? scheme rest

/-- The path as it is written. Two slashes that do not open an authority get a dot between them. -/
def pathChars (u : Url) : List Char :=
  match u.path with
  | .opaquePath text => text
  | .segments parts =>
    let text := parts.flatMap fun s => '/' :: s
    match u.authority, parts with
    | none, [] :: _ :: _ => '/' :: '.' :: text
    | _, _ => text

def chars (u : Url) : List Char :=
  u.scheme ++ ':' :: (match u.authority with
    | some a => '/' :: '/' :: a
    | none => [])
  ++ u.pathChars
  ++ (match u.query with
    | some q => '?' :: q
    | none => [])
  ++ (match u.fragment with
    | some f => '#' :: f
    | none => [])

protected def toString (u : Url) : String := String.ofList u.chars

/-- Segments added to a path after an empty last one is taken away. -/
def addSegments (parts new : List (List Char)) : List (List Char) :=
  let front := if 2 ≤ parts.length ∧ parts.getLast? = some [] then parts.dropLast else parts
  match new with
  | [] => front
  | _ => (if front = [[]] then [] else front) ++ new

/-- The URL with segments at the end of its path. An opaque path stays as it is. -/
def extendPath (u : Url) (new : List (List Char)) : Url :=
  match u.path with
  | .opaquePath _ => u
  | .segments parts =>
    let set := if isSpecialScheme u.scheme then inSpecialSegmentSet else inSegmentSet
    let written := new.map fun s =>
      encode set (s.filter fun c => c ≠ '\t' && c ≠ '\n' && c ≠ '\r')
    { u with path := .segments (trimFilePath (isFile u.scheme) (addSegments parts written)) }

/-- The URL with one more name and value in its query. -/
def addQueryPair (u : Url) (name value : List Char) : Url :=
  let pair := name ++ '=' :: value
  { u with query := some (match u.query with
    | some (c :: q) => (c :: q) ++ '&' :: pair
    | _ => pair) }

end Url

end RichChat

import Rollup.Cluster.Host
import Rollup.Number.Reading

/-!
# URLs

Absolute URLs with a path of segments, read as the URL standard says: blanks around the
text are dropped, scheme and host are brought into one form, a port that the scheme
implies is left out, segments `.` and `..` are resolved, and characters that may not
stand where they are get encoded.
-/

namespace Rollup
namespace Cluster

structure Url where
  scheme : String
  username : String := ""
  password : String := ""
  host : Option String
  port : Option Nat := none
  path : List String
  query : Option String := none
  fragment : Option String := none
deriving DecidableEq, Repr

def defaultPort? (scheme : String) : Option Nat :=
  match scheme with
  | "http" => some 80
  | "ws" => some 80
  | "https" => some 443
  | "wss" => some 443
  | "ftp" => some 21
  | _ => none

/-- Schemes with a host in ASCII and a path that is never empty. -/
def isWebScheme (scheme : String) : Bool :=
  (defaultPort? scheme).isSome || scheme == "file"

/-!
# Characters that are encoded
-/

def fragmentChars : List Char := [' ', '"', '<', '>', '`']

def pathChars : List Char := fragmentChars ++ ['#', '?', '\x7b', '\x7d']

def userChars : List Char :=
  pathChars ++ ['/', ':', ';', '=', '@', '[', '\\', ']', '^', '|']

def queryChars (scheme : String) : List Char :=
  [' ', '"', '#', '<', '>'] ++ (if isWebScheme scheme then ['\''] else [])

def segmentChars (scheme : String) : List Char :=
  pathChars ++ ['/', '%'] ++ (if isWebScheme scheme then ['\\'] else [])

def encodeText (chars : List Char) (cs : List Char) : String :=
  String.ofList (Text.percentEncode (Text.encodedIn chars) cs)

namespace Url

def isIgnored (c : Char) : Bool :=
  c == '\t' || c == '\n' || c == '\r'

def isOuterBlank (c : Char) : Bool :=
  c.toNat <= 0x20

/-- The text without blanks around it, and without tabs and line ends in it. -/
def clean (text : String) : List Char :=
  let inner := (text.toList.dropWhile isOuterBlank).reverse.dropWhile isOuterBlank
  inner.reverse.filter (fun c => !isIgnored c)

def isSchemeChar (c : Char) : Bool :=
  c.isAlphanum || c == '+' || c == '-' || c == '.'

def scheme? (cs : List Char) : Option (String × List Char) :=
  match cs.head?, cs.dropWhile isSchemeChar with
  | some first, ':' :: rest =>
      if first.isAlpha then
        some (String.ofList ((cs.takeWhile isSchemeChar).map Char.toLower), rest)
      else
        none
  | _, _ => none

def isSlash (scheme : String) (c : Char) : Bool :=
  c == '/' || (c == '\\' && isWebScheme scheme)

def endsAuthority (scheme : String) (c : Char) : Bool :=
  isSlash scheme c || c == '?' || c == '#'

/-!
# Authority
-/

/-- What stands before and after the last `@`. -/
def splitUser? (cs : List Char) : Option (List Char × List Char) :=
  let reversed := cs.reverse
  match reversed.dropWhile (fun c => c != '@') with
  | [] => none
  | _ :: before => some (before.reverse, (reversed.takeWhile (fun c => c != '@')).reverse)

/-- Host and port, divided by the first colon outside brackets. -/
def splitPort (inside : Bool) : List Char -> List Char × Option (List Char)
  | [] => ([], none)
  | c :: rest =>
      if c == ':' && !inside then
        ([], some rest)
      else
        let now := if c == '[' then true else if c == ']' then false else inside
        let (host, port) := splitPort now rest
        (c :: host, port)

def port? (scheme : String) : Option (List Char) -> Option (Option Nat)
  | none => some none
  | some [] => some none
  | some digits =>
      if digits.all Char.isDigit then
        let value := Number.digitsValue 0 digits
        if 65535 < value then none
        else if defaultPort? scheme = some value then some none
        else some (some value)
      else
        none

/-- The part between the slashes: user, password, host and port. -/
def authority? (scheme : String) (cs : List Char) : Option Url := do
  let (user, place) := (splitUser? cs).getD ([], cs)
  let (hostText, portText) := splitPort false place
  if hostText.isEmpty then
    if isWebScheme scheme || portText.isSome || (splitUser? cs).isSome then
      none
    else
      return { scheme := scheme, host := some "", path := [] }
  else
    let host <- if isWebScheme scheme then webHost? hostText else opaqueHost? hostText
    let port <- port? scheme portText
    return {
      scheme := scheme
      username := encodeText userChars (user.takeWhile (fun c => c != ':'))
      password := encodeText userChars ((user.dropWhile (fun c => c != ':')).drop 1)
      host := some host
      port := port
      path := [] }

/-!
# Path, query and fragment
-/

def plainPoints : List Char -> List Char
  | '%' :: '2' :: 'e' :: rest => '.' :: plainPoints rest
  | '%' :: '2' :: 'E' :: rest => '.' :: plainPoints rest
  | c :: rest => c :: plainPoints rest
  | [] => []

/-- The segments of a path with `.` and `..` resolved. A path that ends in one of them ends in a
slash. -/
def resolve (seen : List String) : List (List Char) -> List String
  | [] => seen.reverse
  | segment :: rest =>
      let point := plainPoints segment
      if point = ['.', '.'] then
        let shorter := seen.drop 1
        resolve (if rest.isEmpty then "" :: shorter else shorter) rest
      else if point = ['.'] then
        resolve (if rest.isEmpty then "" :: seen else seen) rest
      else
        resolve (encodeText pathChars segment :: seen) rest

def segments (scheme : String) (cs : List Char) : List String :=
  match cs with
  | [] => if isWebScheme scheme then [""] else []
  | c :: rest =>
      let inner := if isSlash scheme c then rest else c :: rest
      resolve [] (splitAt (isSlash scheme) inner)

def splitMark (mark : Char) (cs : List Char) : List Char × Option (List Char) :=
  match cs.dropWhile (fun c => c != mark) with
  | [] => (cs, none)
  | _ :: after => (cs.takeWhile (fun c => c != mark), some after)

def withRest (url : Url) (cs : List Char) : Url :=
  let (main, fragment) := splitMark '#' cs
  let (path, query) := splitMark '?' main
  { url with
    path := segments url.scheme path
    query := query.map (encodeText (queryChars url.scheme))
    fragment := fragment.map (encodeText fragmentChars) }

def file? (cs : List Char) : Option Url :=
  let plain : Url := { scheme := "file", host := some "", path := [] }
  match cs with
  | a :: b :: rest =>
      if isSlash "file" a && isSlash "file" b then do
        let hostText := rest.takeWhile (fun c => !endsAuthority "file" c)
        let host <- if hostText.isEmpty then some "" else webHost? hostText
        let shown := if host = "localhost" then "" else host
        let url : Url := { plain with host := some shown }
        return url.withRest (rest.drop hostText.length)
      else
        some (plain.withRest cs)
  | _ => some (plain.withRest cs)

def withHost? (scheme : String) (cs : List Char) : Option Url := do
  let place := cs.takeWhile (fun c => !endsAuthority scheme c)
  let url <- authority? scheme place
  return url.withRest (cs.drop place.length)

def parse? (text : String) : Option Url := do
  let (scheme, rest) <- scheme? (clean text)
  if scheme = "file" then
    file? rest
  else if isWebScheme scheme then
    withHost? scheme (rest.dropWhile (isSlash scheme))
  else
    match rest with
    | '/' :: '/' :: rest => withHost? scheme rest
    | '/' :: _ =>
        let url : Url := { scheme := scheme, host := none, path := [] }
        return url.withRest rest
    | _ => none

/-!
# Writing
-/

def pathText (url : Url) : String :=
  String.join (url.path.map (fun segment => "/" ++ segment))

def queryText (url : Url) : String :=
  match url.query with
  | some query => "?" ++ query
  | none => ""

def userText (url : Url) : String :=
  let password := if url.password.isEmpty then "" else ":" ++ url.password
  if url.username.isEmpty && url.password.isEmpty then "" else url.username ++ password ++ "@"

/-- Host and port with what marks them. A path without host must not look like one. -/
def authorityText (url : Url) : String :=
  match url.host with
  | some host =>
      let port := match url.port with
        | some port => s!":{port}"
        | none => ""
      "//" ++ url.userText ++ host ++ port
  | none =>
      match url.path with
      | "" :: _ :: _ => "/."
      | _ => ""

def text (url : Url) : String :=
  let fragment := match url.fragment with
    | some fragment => "#" ++ fragment
    | none => ""
  url.scheme ++ ":" ++ url.authorityText ++ url.pathText ++ url.queryText ++ fragment

/-!
# Longer paths
-/

def dropEmptyLast (path : List String) : List String :=
  if 1 < path.length && path.getLast? = some "" then path.dropLast else path

/-- Puts a segment behind a path. The root has one empty segment, which gives way. -/
def appendSegment (path : List String) (segment : String) : List String :=
  if path = [] || path = [""] then [segment] else path ++ [segment]

/-- Puts a name behind a path as one encoded segment. `.` and `..` are left out; names that
become one of them once tabs and line ends are dropped are resolved. -/
def push (scheme : String) (path : List String) (name : String) : List String :=
  if name = "." || name = ".." then
    path
  else
    let kept := name.toList.filter (fun c => !isIgnored c)
    if kept = ['.', '.'] then path.dropLast ++ [""]
    else if kept = ['.'] then appendSegment path ""
    else appendSegment path (encodeText (segmentChars scheme) kept)

end Url
end Cluster
end Rollup

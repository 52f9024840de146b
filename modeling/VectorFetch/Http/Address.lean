import VectorFetch.Http.TransferError
import VectorFetch.Url.Path

/-!
# Addresses

An address is what a transfer is done with: whom to ask, and for what. It is read from
the text of a URL, or from the place that a redirect names.

* `Address`, `Address.target`, `Address.text`: the parts, what is asked for, and the
  address as a text.
* `Address.ofText`: reads the text of a URL.
* `Address.reference`: where a redirect leads, as a text.
* `Address.redirected`: the address of a redirect.
-/

namespace VectorFetch.Http

/-- Whom to ask, and for what. -/
structure Address where
  scheme : String
  /-- User name and password as they are written. -/
  credentials : Option String
  host : String
  port : Option Nat
  path : String
  query : Option String
  fragment : Option String
  deriving DecidableEq, Repr

namespace Address

/-! ## Writing -/

/-- The address up to its path. -/
def origin (a : Address) : String :=
  let user := match a.credentials with
    | some text => text ++ "@"
    | none => ""
  let port := match a.port with
    | some n => ":" ++ n.repr
    | none => ""
  a.scheme ++ "://" ++ user ++ a.host ++ port

/-- The query behind its mark. An empty one is left out. -/
def queryText (a : Address) : String :=
  match a.query with
  | some q => if q.isEmpty then "" else "?" ++ q
  | none => ""

/-- What is asked for. -/
def target (a : Address) : String := a.path ++ a.queryText

def text (a : Address) : String :=
  a.origin ++ a.target ++ (match a.fragment with
    | some f => "#" ++ f
    | none => "")

def defaultPort (scheme : String) : Nat := if scheme = "https" then 443 else 80

/-- Host and port as they are named in a request. The port of the scheme is left out. -/
def hostText (a : Address) : String :=
  match a.port with
  | some n => if n = defaultPort a.scheme then a.host else a.host ++ ":" ++ n.repr
  | none => a.host

/-! ## Dot segments -/

/-- Takes one segment of a path; the segments before it come last one first. -/
def takeSegment (before : List (List Char)) (segment : List Char) : List (List Char) :=
  if Url.Path.isDoubleDot segment then before.drop 1
  else if Url.Path.isSingleDot segment then before
  else segment :: before

/-- The segments of a path without the dot segments. A path that ends in one ends in a
slash. -/
def resolveDots (before : List (List Char)) : List (List Char) → List (List Char)
  | [] => before.reverse
  | [last] =>
    if Url.Path.isDoubleDot last || Url.Path.isSingleDot last then
      ([] :: takeSegment before last).reverse
    else (last :: before).reverse
  | segment :: rest => resolveDots (takeSegment before segment) rest

/-- A path without dot segments. It starts with a slash. -/
def normalizePath (path : List Char) : List Char :=
  Url.Path.text (resolveDots [] ((path.drop 1).splitOn '/'))

/-! ## Encoding -/

/-- A hexadecimal digit of either case. -/
def isHexDigit (c : Char) : Bool := (Radix.digit? 16 c).isSome

/-- The uppercase form of a hexadecimal digit. -/
def upperDigit (c : Char) : Char := if 'a' ≤ c ∧ c ≤ 'f' then Char.ofNat (c.toNat - 32) else c

/-- Encodes what may not stand in a request: blanks, controls and all beyond ASCII.
Encoded bytes get uppercase digits. Behind `?` a blank is written as `+`. -/
def encode (query : Bool) : List Char → List Char
  | [] => []
  | '%' :: a :: b :: rest =>
    if isHexDigit a && isHexDigit b then '%' :: upperDigit a :: upperDigit b :: encode query rest
    else '%' :: encode query (a :: b :: rest)
  | ' ' :: rest =>
    if query then '+' :: encode query rest else '%' :: '2' :: '0' :: encode query rest
  | c :: rest =>
    Url.Percent.encodeChar Url.Percent.inControls c ++ encode (query || c = '?') rest

/-! ## Reading -/

/-- A character of a scheme behind its first letter. -/
def isSchemeChar (c : Char) : Bool :=
  Url.Path.isLetter c || ('0' ≤ c && c ≤ '9') || c = '+' || c = '-' || c = '.'

/-- The lowercase scheme and what follows its colon. With `guess` a slash has to follow,
because the text could also be a host and a port. -/
def scheme? (guess : Bool) (s : List Char) : Option (String × List Char) :=
  match s with
  | [] => none
  | c :: _ =>
    if Url.Path.isLetter c then
      match s.dropWhile isSchemeChar with
      | ':' :: rest =>
        if guess && rest.head? ≠ some '/' then none
        else some ((String.ofList (s.takeWhile isSchemeChar)).toLower, rest)
      | _ => none
    else none

/-- Characters that no host may hold. -/
def isForbiddenInHost (c : Char) : Bool :=
  c.toNat < 0x20
    || [' ', '/', ':', '#', '?', '!', '@', '{', '}', '[', ']', '\\', '$', '\'', '"', '^', '`',
      '*', '<', '>', '=', ';', ',', '+', '&', '(', ')'].contains c

/-- Whether a text can be a host: a name, or an address in brackets. -/
def isHost (s : List Char) : Bool :=
  match s with
  | [] => false
  | '[' :: rest =>
    rest.getLast? = some ']' && 1 < rest.length
      && rest.dropLast.all fun c => isHexDigit c || c = ':' || c = '.'
  | s => !s.any isForbiddenInHost

/-- The number of a port, if it is one. -/
def port? (s : List Char) : Option Nat :=
  if s.isEmpty || !s.all fun c => '0' ≤ c && c ≤ '9' then none
  else
    let n := s.foldl (fun n c => n * 10 + (c.toNat - 48)) 0
    if n < 65536 then some n else none

/-- Host and port of an authority without a user. -/
def splitPort (s : List Char) : List Char × Option (List Char) :=
  match s with
  | '[' :: _ =>
    match s.dropWhile (· ≠ ']') with
    | bracket :: ':' :: port => (s.takeWhile (· ≠ ']') ++ [bracket], some port)
    | _ => (s, none)
  | s =>
    match s.dropWhile (· ≠ ':') with
    | _ :: port => (s.takeWhile (· ≠ ':'), some port)
    | [] => (s, none)

/-- User, host and port of an authority. A port may be left empty if there is a scheme. -/
def readAuthority (scheme : Bool) (s : List Char) :
    Except TransferFault (Option String × String × Option Nat) :=
  let (user, rest) := match s.dropWhile (· ≠ '@') with
    | _ :: rest => (some (String.ofList (s.takeWhile (· ≠ '@'))), rest)
    | [] => (none, s)
  let (host, port) := splitPort rest
  if !isHost host then .error .malformedUrl
  else
    match port with
    | none => .ok (user, String.ofList host, none)
    | some [] => if scheme then .ok (user, String.ofList host, none) else .error .malformedUrl
    | some digits =>
      match port? digits with
      | some n => .ok (user, String.ofList host, some n)
      | none => .error .malformedUrl

/-- Path, query and fragment of what follows an authority. With `encoded` what may not
stand in a request is encoded. -/
def readTail (encoded : Bool) (s : List Char) :
    List Char × Option (List Char) × Option (List Char) :=
  let whole := s.takeWhile (· ≠ '#')
  let fragment := match s.dropWhile (· ≠ '#') with
    | _ :: rest => some rest
    | [] => none
  let path := whole.takeWhile (· ≠ '?')
  let query := match whole.dropWhile (· ≠ '?') with
    | _ :: rest => some rest
    | [] => none
  let path := if path.isEmpty then ['/'] else path
  if encoded then (normalizePath (encode false path), query.map (encode true), fragment)
  else (normalizePath path, query, fragment)

/-- Reads an address behind the colon of its scheme. One to three slashes introduce the
authority. -/
def readBehindScheme (encoded : Bool) (scheme : String) (hasScheme : Bool) (s : List Char) :
    Except TransferFault Address :=
  let rest := s.dropWhile (· = '/')
  let slashes := s.length - rest.length
  if hasScheme && (slashes < 1 || 3 < slashes) then .error .malformedUrl
  else
    let endsHost := fun c => c = '/' || c = '?' || c = '#'
    match readAuthority hasScheme (rest.takeWhile fun c => !endsHost c) with
    | .error e => .error e
    | .ok (credentials, host, port) =>
      let (path, query, fragment) := readTail encoded (rest.dropWhile fun c => !endsHost c)
      .ok {
        scheme
        credentials
        host
        port
        path := String.ofList path
        query := query.map String.ofList
        fragment := fragment.map String.ofList }

/-- Whether a text starts like the letter of a drive. -/
def startsWithDrive (s : List Char) : Bool :=
  match s with
  | c :: mark :: rest =>
    Url.Path.isLetter c && (mark = ':' || mark = '|')
      && (match rest with
        | [] => true
        | c :: _ => c = '/' || c = '\\')
  | _ => false

/-- Reads the address of a file behind `file:`. Only this machine can be named as the
host, and there are no drives. -/
def readFile (s : List Char) : Except TransferFault Address :=
  let path := match s with
    | '/' :: '/' :: rest =>
      if rest.head? = some '/' || startsWithDrive rest then some rest
      else if "localhost/".toList.isPrefixOf rest || "127.0.0.1/".toList.isPrefixOf rest then
        some (rest.drop 9)
      else none
    | s => some s
  match path with
  | none => .error .malformedUrl
  | some path =>
    if s.length < 2 || startsWithDrive path || startsWithDrive (path.drop 1) then
      .error .malformedUrl
    else
      let (path, query, fragment) := readTail false path
      .ok {
        scheme := "file"
        credentials := none
        host := ""
        port := none
        path := String.ofList path
        query := query.map String.ofList
        fragment := fragment.map String.ofList }

/-- Whether a scheme can be transferred. -/
def isKnownScheme (scheme : String) : Bool :=
  scheme = "http" || scheme = "https" || scheme = "file"

/-- Reads the text of a URL. A text without a scheme is taken as a host. -/
def ofText (url : String) : Except TransferFault Address :=
  match scheme? true url.toList with
  | some ("file", rest) => readFile rest
  | some (scheme, rest) =>
    match readBehindScheme false scheme true rest with
    | .error e => .error e
    | .ok address => if isKnownScheme scheme then .ok address else .error .unsupportedScheme
  | none => readBehindScheme false "http" false url.toList

/-! ## Redirects -/

/-- The part of a text up to the last slash, which belongs to it. -/
def upToLastSlash (s : List Char) : List Char := (s.reverse.dropWhile (· ≠ '/')).reverse

/-- Where a redirect to a relative place leads, as a text. -/
def reference (base : Address) (place : List Char) : List Char :=
  match place with
  | '/' :: '/' :: rest =>
    let endsHost := fun c => c = '/' || c = '?'
    base.scheme.toList ++ [':', '/', '/'] ++ rest.takeWhile (fun c => !endsHost c)
      ++ encode false (rest.dropWhile fun c => !endsHost c)
  | '/' :: _ => base.origin.toList ++ encode false place
  | '#' :: _ => base.origin.toList ++ base.target.toList ++ encode false place
  | '?' :: _ => base.origin.toList ++ base.path.toList ++ encode false place
  | _ => base.origin.toList ++ upToLastSlash base.path.toList ++ encode false place

/-- The address of a redirect to an absolute place. Only HTTP may be redirected to. -/
def ofPlace (place : List Char) : Except TransferFault Address :=
  if place.any fun c => c.toNat < 0x20 || c.toNat = 0x7F then .error .malformedUrl
  else
    match scheme? false place with
    | some ("file", rest) =>
      match readFile rest with
      | .ok _ => .error .unsupportedScheme
      | .error e => .error e
    | some (scheme, rest) =>
      if scheme = "http" || scheme = "https" then readBehindScheme true scheme true rest
      else .error .unsupportedScheme
    | none => .error .malformedUrl

/-- The address of a redirect. -/
def redirected (base : Address) (place : String) : Except TransferFault Address :=
  match scheme? false place.toList with
  | some _ => ofPlace place.toList
  | none => ofPlace (base.reference place.toList)

end Address

end VectorFetch.Http

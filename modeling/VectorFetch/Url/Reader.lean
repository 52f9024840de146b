import VectorFetch.Text.Trim
import VectorFetch.Url.Basic

/-!
# Reading URLs

* `Url.clean`: what of a text counts. Blanks and controls around it and line breaks
  and tabs anywhere in it do not.
* `Url.splitScheme`, `Url.readCredentials`, `Url.readHostAndPort`: the parts before the
  path.
* `Url.parse`: reads a URL.
* `Url.withPath`: the URL with another path.
-/

namespace VectorFetch.Url

/-! ## The characters that count -/

/-- A blank or a control. -/
def isOuterBlank (c : Char) : Bool := c.toNat ≤ 0x20

/-- A tab or a line break. -/
def isSkipped (c : Char) : Bool := c = '\t' || c = '\n' || c = '\r'

/-- The characters of a text that count. -/
def clean (s : String) : List Char :=
  (Text.trim isOuterBlank s.toList).filter fun c => !isSkipped c

/-! ## Scheme -/

/-- A character of a scheme behind its first letter. -/
def isSchemeChar (c : Char) : Bool :=
  Path.isLetter c || ('0' ≤ c && c ≤ '9') || c = '+' || c = '-' || c = '.'

/-- The lowercase scheme and what follows its colon. -/
def splitScheme (s : List Char) : Option (List Char × List Char) :=
  match s with
  | [] => none
  | c :: _ =>
    if Path.isLetter c then
      match s.dropWhile isSchemeChar with
      | ':' :: rest => some ((s.takeWhile isSchemeChar).map Domain.lower, rest)
      | _ => none
    else none

/-! ## Authority -/

/-- Whether a character ends an authority. -/
def endsAuthority (special : Bool) (c : Char) : Bool :=
  c = '/' || c = '?' || c = '#' || (special && c = '\\')

/-- The characters up to the last `@`, and those behind it. -/
def splitAtLastAt (s : List Char) : Option (List Char × List Char) :=
  match s with
  | [] => none
  | c :: rest =>
    match splitAtLastAt rest with
    | some (before, behind) => some (c :: before, behind)
    | none => if c = '@' then some ([], rest) else none

/-- User name and password as they are written, and the text behind them. `@` with
nothing on either side of it is refused. -/
def readCredentials (special : Bool) (s : List Char) :
    Except Fault (String × String × List Char) :=
  let authority := s.takeWhile fun c => !endsAuthority special c
  let behind := s.dropWhile fun c => !endsAuthority special c
  match splitAtLastAt authority with
  | none => .ok ("", "", s)
  | some ([], []) => if behind.isEmpty then .ok ("", "", behind) else .error .emptyHost
  | some (credentials, host) =>
    let username := credentials.takeWhile (· ≠ ':')
    let password := (credentials.dropWhile (· ≠ ':')).drop 1
    .ok (String.ofList (Percent.encode Percent.inUserinfo username),
      String.ofList (Percent.encode Percent.inUserinfo password), host ++ behind)

/-- The length of a host: up to a colon outside brackets, or to the end of the
authority. -/
def hostLength (special inside : Bool) : List Char → Nat
  | [] => 0
  | c :: rest =>
    if (c = ':' && !inside) || endsAuthority special c then 0
    else if c = '[' then hostLength special true rest + 1
    else if c = ']' then hostLength special false rest + 1
    else hostLength special inside rest + 1

def isDigit (c : Char) : Bool := '0' ≤ c && c ≤ '9'

/-- The number of a list of decimal digits. -/
def digitsValue (cs : List Char) : Nat := cs.foldl (fun n c => n * 10 + (c.toNat - 48)) 0

/-- The port at the start of a text, and the text behind it. The default port counts as
missing. -/
def readPort (defaultPort : Option Nat) (s : List Char) : Except Fault (Option Nat × List Char) :=
  let digits := s.takeWhile isDigit
  let behind := s.dropWhile isDigit
  let n := digitsValue digits
  if 65535 < n then .error .port
  else
    match behind with
    | c :: _ =>
      if endsAuthority true c then
        .ok (if digits.isEmpty || some n = defaultPort then none else some n, behind)
      else .error .port
    | [] => .ok (if digits.isEmpty || some n = defaultPort then none else some n, behind)

/-- The default port of a kind of scheme. -/
def SchemeKind.defaultPort? : SchemeKind → Option Nat
  | .special n => some n
  | _ => none

/-- Host and port, and the text behind them. -/
def readHostAndPort (kind : SchemeKind) (s : List Char) :
    Except Fault (Host × Option Nat × List Char) :=
  let special := kind.isSpecial
  let name := s.take (hostLength special false s)
  let behind := s.drop (hostLength special false s)
  if special && name.isEmpty then .error .emptyHost
  else
    match if special then Host.parse name else Host.parseOpaque name with
    | .error fault => .error fault
    | .ok host =>
      match behind with
      | ':' :: rest =>
        if name.isEmpty then .error .emptyHost
        else
          match readPort kind.defaultPort? rest with
          | .ok (port, rest) => .ok (host, port, rest)
          | .error fault => .error fault
      | behind => .ok (host, none, behind)

/-- The authority behind two slashes, and the text behind it. -/
def readAuthority (kind : SchemeKind) (s : List Char) : Except Fault (Authority × List Char) :=
  match readCredentials kind.isSpecial s with
  | .error fault => .error fault
  | .ok (username, password, rest) =>
    match readHostAndPort kind rest with
    | .error fault => .error fault
    | .ok (host, port, rest) =>
      if host = .empty && !(username.isEmpty && password.isEmpty) then .error .emptyHost
      else .ok (⟨username, password, host, port⟩, rest)

/-! ## Path, query and fragment -/

/-- Whether a character ends a path. -/
def endsPath (c : Char) : Bool := c = '?' || c = '#'

/-- The text of the path, the query and the fragment. -/
def splitTail (s : List Char) : List Char × Option (List Char) × Option (List Char) :=
  let path := s.takeWhile fun c => !endsPath c
  match s.dropWhile fun c => !endsPath c with
  | '?' :: rest =>
    let query := rest.takeWhile (· ≠ '#')
    match rest.dropWhile (· ≠ '#') with
    | _ :: fragment => (path, some query, some fragment)
    | [] => (path, some query, none)
  | _ :: fragment => (path, none, some fragment)
  | [] => (path, none, none)

/-- A URL of its parts before the path and the texts behind it. -/
def assemble (kind : SchemeKind) (scheme : List Char) (authority : Option Authority)
    (path : Location) (query fragment : Option (List Char)) : Url :=
  { scheme := String.ofList scheme
    authority
    path
    query := query.map fun q => String.ofList (Percent.encode (Percent.inQuery kind.isSpecial) q)
    fragment := fragment.map fun f => String.ofList (Percent.encode Percent.inFragment f) }

def Location.ofSegments (segments : List (List Char)) : Location :=
  .segments (segments.map String.ofList)

/-- The segments of a path behind its first slash, which may be missing. -/
def readSegments (kind : SchemeKind) (path : List Char) : List (List Char) × Bool :=
  match path with
  | c :: rest =>
    if c = '/' || (kind.isSpecial && c = '\\') then
      Path.segments kind.isSpecial kind.isFile [] rest
    else Path.segments kind.isSpecial kind.isFile [] path
  | [] => Path.segments kind.isSpecial kind.isFile [] []

/-! ## Whole URLs -/

/-- An authority that is only a host. -/
def Authority.ofHost (host : Host) : Authority := ⟨"", "", host, none⟩

/-- The host of a file URL and the text behind it. A drive letter is no host, and
`localhost` is none either. -/
def readFileHost (s : List Char) : Except Fault (Host × List Char) :=
  let name := s.takeWhile fun c => !endsAuthority true c
  if name.isEmpty || Path.isDrive name then .ok (.empty, s)
  else
    match Host.parse name with
    | .error fault => .error fault
    | .ok host =>
      .ok (if host = .domain "localhost" then .empty else host,
        s.dropWhile fun c => !endsAuthority true c)

def parseFile (s : List Char) : Except Fault Url :=
  let kind := SchemeKind.file
  let slash := fun c => c = '/' || c = '\\'
  match s with
  | a :: b :: rest =>
    if slash a && slash b then
      match readFileHost rest with
      | .error fault => .error fault
      | .ok (host, rest) =>
        let (path, query, fragment) := splitTail rest
        let (segments, drive) :=
          if host = .empty then Path.segments true true [] path else readSegments kind path
        let host := if drive then Host.empty else host
        .ok (assemble kind "file".toList (some (.ofHost host)) (.ofSegments segments) query
          fragment)
    else
      let (path, query, fragment) := splitTail s
      .ok (assemble kind "file".toList (some (.ofHost .empty))
        (.ofSegments (readSegments kind path).1) query fragment)
  | s =>
    let (path, query, fragment) := splitTail s
    .ok (assemble kind "file".toList (some (.ofHost .empty))
      (.ofSegments (readSegments kind path).1) query fragment)

/-- Reads what follows the two slashes of a URL that names no file. -/
def parseBehindSlashes (kind : SchemeKind) (scheme s : List Char) : Except Fault Url :=
  match readAuthority kind s with
  | .error fault => .error fault
  | .ok (authority, rest) =>
    let (path, query, fragment) := splitTail rest
    let segments :=
      if path.isEmpty && !kind.isSpecial then [] else (readSegments kind path).1
    .ok (assemble kind scheme (some authority) (.ofSegments segments) query fragment)

def parse (s : String) : Except Fault Url :=
  match splitScheme (clean s) with
  | none => .error .noScheme
  | some (scheme, rest) =>
    let kind := schemeKind (String.ofList scheme)
    match kind with
    | .file => parseFile rest
    | .special _ =>
      parseBehindSlashes kind scheme (rest.dropWhile fun c => c = '/' || c = '\\')
    | .other =>
      match rest with
      | '/' :: '/' :: rest => parseBehindSlashes kind scheme rest
      | _ =>
        let (path, query, fragment) := splitTail rest
        match path with
        | '/' :: _ =>
          .ok (assemble kind scheme none (.ofSegments (readSegments kind path).1) query fragment)
        | _ =>
          .ok (assemble kind scheme none
            (.rootless (String.ofList (Percent.encode Percent.inControls path))) query fragment)

/-! ## Another path -/

/-- The URL with another path. A path without structure cannot start with a slash, so
one at its start is encoded. -/
def withPath (u : Url) (path : String) : Url :=
  let kind := schemeKind u.scheme
  match u.path with
  | .rootless _ =>
    match path.toList with
    | '/' :: rest =>
      { u with path := .rootless (String.ofList
          ("%2F".toList ++ Percent.encode Percent.inControls rest)) }
    | path => { u with path := .rootless (String.ofList (Percent.encode Percent.inControls path)) }
  | .segments _ => { u with path := .ofSegments (readSegments kind path.toList).1 }

end VectorFetch.Url

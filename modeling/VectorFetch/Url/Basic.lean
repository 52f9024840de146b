import VectorFetch.Url.Host
import VectorFetch.Url.Path

/-!
# URLs

* `Scheme`, `Scheme.kind`: what a scheme says about the parts behind it.
* `Url`: a URL by its parts, each as it is written.
* `Url.text`: the whole URL.
* `Url.sibling`: the URL of a name beside the last segment of the path.
-/

namespace VectorFetch.Url

/-! ## Schemes -/

/-- What a scheme says about the parts behind it. -/
inductive SchemeKind where
  /-- Files: a host without user or port, and drive letters. -/
  | file
  /-- Domain names, slashes of either direction, and a default port. -/
  | special (defaultPort : Nat)
  /-- All other schemes. -/
  | other
  deriving DecidableEq, Repr

/-- The kind of a scheme by its lowercase name. -/
def schemeKind (scheme : String) : SchemeKind :=
  match scheme with
  | "file" => .file
  | "http" => .special 80
  | "https" => .special 443
  | "ws" => .special 80
  | "wss" => .special 443
  | "ftp" => .special 21
  | _ => .other

/-- Whether a scheme gives backslashes and domain names their meaning. -/
def SchemeKind.isSpecial : SchemeKind → Bool
  | .other => false
  | _ => true

def SchemeKind.isFile : SchemeKind → Bool
  | .file => true
  | _ => false

/-! ## Parts -/

/-- Who is asked, where, and on which port. Empty user names and passwords count as
missing, and so does the default port. -/
structure Authority where
  username : String
  password : String
  host : Host
  port : Option Nat
  deriving DecidableEq, Repr

/-- A path: a text without structure, or segments that each stand behind a slash. -/
inductive Location where
  | rootless (text : String)
  | segments (names : List String)
  deriving DecidableEq, Repr

end Url

/-- A URL by its parts. -/
structure Url where
  scheme : String
  authority : Option Url.Authority
  path : Url.Location
  query : Option String
  fragment : Option String
  deriving DecidableEq, Repr

namespace Url

/-! ## Writing -/

/-- The user name and the password before the host. -/
def Authority.credentials (a : Authority) : String :=
  if a.username.isEmpty && a.password.isEmpty then ""
  else if a.password.isEmpty then a.username ++ "@"
  else a.username ++ ":" ++ a.password ++ "@"

def Authority.portText (a : Authority) : String :=
  match a.port with
  | some n => ":" ++ n.repr
  | none => ""

/-- An authority without the slashes before it. -/
def Authority.text (a : Authority) : String := a.credentials ++ a.host.text ++ a.portText

def Location.text : Location → String
  | .rootless text => text
  | .segments names => String.join (names.map fun s => "/" ++ s)

/-- The scheme and the authority. A path that starts with two slashes would read as an
authority, so one that is none gets a dot segment before it. -/
def origin (u : Url) : String :=
  match u.authority with
  | some a => u.scheme ++ "://" ++ a.text
  | none =>
    match u.path with
    | .segments ("" :: _ :: _) => u.scheme ++ ":/."
    | _ => u.scheme ++ ":"

def queryText (u : Url) : String :=
  match u.query with
  | some q => "?" ++ q
  | none => ""

def fragmentText (u : Url) : String :=
  match u.fragment with
  | some f => "#" ++ f
  | none => ""

/-- The URL up to the end of its path. -/
def stem (u : Url) : String := u.origin ++ u.path.text

def text (u : Url) : String := u.stem ++ u.queryText ++ u.fragmentText

instance : ToString Url := ⟨text⟩

/-! ## Names beside the last segment -/

/-- The URL of a name that takes the place of the last segment. Query and fragment do
not belong to it. A path without structure has no segment to replace. -/
def sibling (u : Url) (name : String) : Except Fault Url :=
  match u.path with
  | .rootless _ => .error .opaqueBase
  | .segments names =>
    .ok { u with path := .segments (names.dropLast ++ [name]), query := none, fragment := none }

end Url

end VectorFetch

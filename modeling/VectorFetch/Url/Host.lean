import VectorFetch.Url.Domain
import VectorFetch.Url.Fault
import VectorFetch.Url.IPv6

/-!
# Hosts

* `Host`: nothing, a domain name, an address, or the name of a scheme that gives names
  no meaning of their own.
* `Host.parse`: the host of a scheme with domain names.
* `Host.parseOpaque`: the host of any other scheme.
* `Host.text`: the host as it stands in a URL.
-/

namespace VectorFetch.Url

/-- The host of a URL. -/
inductive Host where
  | empty
  | domain (name : String)
  | ipv4 (address : IPv4)
  | ipv6 (address : IPv6)
  | opaqueName (name : String)
  deriving DecidableEq, Repr

namespace Host

/-- The host as it stands in a URL. -/
def text : Host → String
  | .empty => ""
  | .domain name => name
  | .ipv4 address => address.text
  | .ipv6 address => "[" ++ address.text ++ "]"
  | .opaqueName name => name

/-- An address between brackets; `inner` is what follows the opening one. -/
def parseBracketed (inner : List Char) : Except Fault Host :=
  match inner.reverse with
  | ']' :: address =>
    match IPv6.parse? address.reverse with
    | some address => .ok (.ipv6 address)
    | none => .error .ipv6
  | _ => .error .ipv6

/-- Reads the host of a scheme with domain names. A domain name that ends in a number
has to be an address. -/
def parse (s : List Char) : Except Fault Host :=
  match s with
  | '[' :: inner => parseBracketed inner
  | s =>
    match Domain.ascii? (Percent.decode (Utf8.encodeChars s)) with
    | none => .error .domainName
    | some name =>
      if name.isEmpty then .error .emptyHost
      else if IPv4.endsInNumber name then
        match IPv4.parse? name with
        | some address => .ok (.ipv4 address)
        | none => .error .ipv4
      else .ok (.domain (String.ofList name))

/-- Characters that no host may hold, whatever the scheme. -/
def isForbidden (c : Char) : Bool :=
  ['\x00', '\t', '\n', '\r', ' ', '#', '/', ':', '<', '>', '?', '@', '[', '\\', ']', '^',
    '|'].contains c

/-- Reads the host of a scheme without domain names. -/
def parseOpaque (s : List Char) : Except Fault Host :=
  match s with
  | [] => .ok .empty
  | '[' :: inner => parseBracketed inner
  | s =>
    if s.any isForbidden then .error .domainCharacter
    else .ok (.opaqueName (String.ofList (Percent.encode Percent.inControls s)))

end Host

end VectorFetch.Url

/-!
# Faults of URLs

* `Fault`: everything that can be wrong with a URL or a reference.
* `Fault.message`, `Fault.name`: its wording, and its name in structured logs.
-/

namespace VectorFetch.Url

/-- What is wrong with a URL. -/
inductive Fault where
  | emptyHost
  | domainName
  | port
  | ipv4
  | ipv6
  | domainCharacter
  | noScheme
  | opaqueBase
  deriving DecidableEq, Repr

def Fault.message : Fault → String
  | .emptyHost => "empty host"
  | .domainName => "invalid international domain name"
  | .port => "invalid port number"
  | .ipv4 => "invalid IPv4 address"
  | .ipv6 => "invalid IPv6 address"
  | .domainCharacter => "invalid domain character"
  | .noScheme => "relative URL without a base"
  | .opaqueBase => "relative URL with a cannot-be-a-base base"

/-- The name of a fault in structured logs. -/
def Fault.name : Fault → String
  | .emptyHost => "EmptyHost"
  | .domainName => "IdnaError"
  | .port => "InvalidPort"
  | .ipv4 => "InvalidIpv4Address"
  | .ipv6 => "InvalidIpv6Address"
  | .domainCharacter => "InvalidDomainCharacter"
  | .noScheme => "RelativeUrlWithoutBase"
  | .opaqueBase => "RelativeUrlWithCannotBeABaseBase"

end VectorFetch.Url

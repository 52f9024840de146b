/-!
# Transfer errors

* `TransferFault`: why a transfer gave no response, with its number and its name
  (`TransferFault.code`, `TransferFault.reason`).
* `TransferError`: the same, with what is known about the circumstances.
-/

namespace VectorFetch.Http

/-- Why a transfer gave no response. -/
inductive TransferFault where
  /-- The scheme is unknown or may not be used here. -/
  | unsupportedScheme
  /-- The address has no host that could be asked. -/
  | malformedUrl
  /-- The server does not take connections. -/
  | refused
  /-- The answer is not HTTP. -/
  | strangeReply
  /-- The body is shorter than was announced. -/
  | partialBody
  /-- A file cannot be read. -/
  | unreadableFile
  /-- A setting has a value that cannot be used. -/
  | badSetting
  /-- There is one redirect more than was allowed. -/
  | tooManyRedirects
  /-- The connection was closed without an answer. -/
  | noReply
  /-- The body is not framed as was announced. -/
  | badFraming
  /-- The server cannot show who it is. -/
  | untrusted
  /-- Any other reason, by its number. -/
  | other (number : Nat)
  deriving DecidableEq, Repr

namespace TransferFault

def code : TransferFault → Nat
  | .unsupportedScheme => 1
  | .malformedUrl => 3
  | .refused => 7
  | .strangeReply => 8
  | .partialBody => 18
  | .unreadableFile => 37
  | .badSetting => 43
  | .tooManyRedirects => 47
  | .noReply => 52
  | .badFraming => 56
  | .untrusted => 60
  | .other number => number

/-- The name of a fault. -/
def reason : TransferFault → String
  | .unsupportedScheme => "Unsupported protocol"
  | .malformedUrl => "URL using bad/illegal format or missing URL"
  | .refused => "Could not connect to server"
  | .strangeReply => "Weird server reply"
  | .partialBody => "Transferred a partial file"
  | .unreadableFile => "Could not read a file:// file"
  | .badSetting => "Function was given a bad argument"
  | .tooManyRedirects => "Number of redirects hit maximum amount"
  | .noReply => "Server returned nothing (no headers, no data)"
  | .badFraming => "Failure when receiving data from the peer"
  | .untrusted => "SSL peer certificate or SSH remote key was not OK"
  | .other _ => "Unknown error"

end TransferFault

/-- Why a transfer gave no response, and what the transport has to say about the circumstances. -/
structure TransferError where
  fault : TransferFault
  detail : Option String
  deriving DecidableEq, Repr

namespace TransferError

def code (e : TransferError) : Nat := e.fault.code

/-- What an error says about itself. -/
def message (e : TransferError) : String :=
  match e.detail with
  | some detail => s!"[{e.code}] {e.fault.reason} ({detail})"
  | none => s!"[{e.code}] {e.fault.reason}"

end TransferError

end VectorFetch.Http

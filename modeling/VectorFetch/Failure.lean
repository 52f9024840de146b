import VectorFetch.Files.Path
import VectorFetch.Files.Error
import VectorFetch.Http.TransferError
import VectorFetch.Json.Error
import VectorFetch.Key
import VectorFetch.Url.Fault

/-!
# Failures

* `FetchError`: why one file was not fetched.
* `KeyFailure`: the same with the key at which it happened.
* `BatchError`: why a run ended early.

Each has a `message` of its own, which leaves out what caused it.
-/

namespace VectorFetch

/-! ## One file -/

/-- Why one file was not fetched. -/
inductive FetchError where
  /-- The transfer gave no response. -/
  | network (error : Http.TransferError)
  /-- The status says that the request did not succeed. -/
  | status (code : Nat)
  /-- The body is no JSON document. -/
  | json (error : Json.Error)
  /-- The file cannot be written. -/
  | io (path : Path) (error : IoError)
  /-- There is no URL for the file. -/
  | url (fault : Url.Fault)
  deriving DecidableEq, Repr

namespace FetchError

/-- The kind of an error in one word. -/
def kind : FetchError → String
  | .network _ => "network"
  | .status _ => "http"
  | .json _ => "json"
  | .io _ _ => "io"
  | .url _ => "url"

/-- What an error says by itself. -/
def message : FetchError → String
  | .network _ => "network error"
  | .status code => s!"HTTP {code}"
  | .json _ => "invalid JSON"
  | .io path _ => s!"write {path}"
  | .url _ => "invalid URL"

/-- The form of an error in structured logs. -/
def description : FetchError → String
  | .network error => "Network(" ++ error.message ++ ")"
  | .status code => "Http \x7b status: " ++ code.repr ++ " \x7d"
  | .json error =>
    "Json(Error(" ++ Text.quoted error.fault.text ++ ", line: " ++ error.position.line.repr
      ++ ", column: " ++ error.position.column.repr ++ "))"
  | .io path error =>
    "Io \x7b path: " ++ Text.quoted path.text ++ ", source: " ++ error.description ++ " \x7d"
  | .url fault => "Url(" ++ fault.name ++ ")"

end FetchError

/-! ## A key -/

/-- A failure and the key at which it happened. -/
structure KeyFailure where
  key : Key
  error : FetchError
  deriving DecidableEq, Repr

namespace KeyFailure

/-- What a failure says by itself. -/
def message (f : KeyFailure) : String := s!"key {f.key}"

end KeyFailure

/-! ## A run -/

/-- Why a run ended early. -/
inductive BatchError where
  /-- A file was not fetched. -/
  | key (failure : KeyFailure)
  /-- A line of progress was not accepted. -/
  | output (error : IoError)
  deriving DecidableEq, Repr

namespace BatchError

/-- What an error says by itself. A failure at a key speaks for itself. -/
def message : BatchError → String
  | .key failure => failure.message
  | .output _ => "progress output"

end BatchError

end VectorFetch

import VectorFetch.BufferedSink
import VectorFetch.Json.Layout
import VectorFetch.Site

/-!
# Artifacts

An artifact is a file with the laid out document of a value.

* `WriteError`: why a document was not written.
* `Artifact.pieces`: the document in the pieces in which it is written.
* `Artifact.writeTo`: writes it to a sink.
* `Artifact.writeThrough`: writes it to a sink, through a buffer.
* `Artifact.write`: writes it to a file, through a buffer.
-/

namespace VectorFetch

/-! ## Errors -/

/-- Why a document was not written. -/
inductive WriteError where
  /-- What it was written to refused. -/
  | io (error : IoError)
  /-- The value has no document. -/
  | document (error : Json.Error)
  deriving DecidableEq, Repr

namespace WriteError

def isIo : WriteError → Bool
  | .io _ => true
  | .document _ => false

def message : WriteError → String
  | .io error => error.message
  | .document error => error.message

/-- The error of an artifact that was to be written to a path. -/
def fetchError (path : Path) : WriteError → FetchError
  | .io error => .io path error
  | .document error => .json error

end WriteError

namespace Artifact

/-! ## Sinks -/

/-- The document of a value in the pieces in which it is written. -/
def pieces (value : Json.Value) : List Bytes := (value.fragments 0).map Utf8.encode

/-- Writes the document of a value to a sink. -/
def writeTo (sink : Sink) (value : Json.Value) : Except WriteError Unit × Sink :=
  match sink.takePieces (pieces value) with
  | (.error e, sink) => (.error (.io e), sink)
  | (.ok (), sink) => (.ok (), sink)

/-- Writes the document of a value to a sink behind a buffer, and flushes it. The buffer is closed
also when that failed. -/
def writeThrough (path : Path) (value : Json.Value) (sink : Sink) :
    Except FetchError Unit × Sink :=
  match (BufferedSink.fresh sink).putAll Buffer.standardCapacity (pieces value) with
  | (.error e, b) => (.error ((WriteError.io e).fetchError path), b.close)
  | (.ok (), b) =>
    match b.flush with
    | (.error e, b) => (.error (.io path e), b.close)
    | (.ok (), b) => (.ok (), b.close)

/-! ## Files -/

/-- Creates a file, or empties the one that is there, and writes the document of a
value to it. -/
def write {σ : Type} (path : Path) (value : Json.Value) (site : Site σ) :
    Except FetchError Unit × Site σ :=
  match site.create path with
  | (.error e, site) => (.error (.io path e), site)
  | (.ok place, site) =>
    match site.storeAll place (Buffer.batches (pieces value)) with
    | (.error e, site) => (.error (.io path e), site)
    | (.ok (), site) => (.ok (), site)

end Artifact

end VectorFetch

import VectorFetch.Artifact
import VectorFetch.Http.Get
import VectorFetch.Json.Reader
import VectorFetch.Source

/-!
# Batches

A batch fetches the file of every key, one after the other, lays it out and writes it
to a directory. It announces each file when it is written, and it stops at the first
failure.

* `Batch`: from where, to where, and how.
* `Batch.keep`, `Batch.fetchOne`: one response, and one file.
* `Batch.fetchAll`: the files of a list of keys, up to the first failure.
* `Batch.runOver`, `Batch.run`: the same behind an announcement, and the whole key space.
-/

namespace VectorFetch

/-- From where files are fetched, to where, and how. -/
structure Batch where
  source : Source
  outDir : Path
  http : Http.Options
  deriving DecidableEq, Repr

namespace Batch

variable {σ : Type}

/-! ## One file -/

/-- The path of the file of a key. -/
def artifactPath (batch : Batch) (key : Key) : Path := batch.outDir.join key.fileName

/-- Reads a response and writes what it says to the file of a key. -/
def keep (batch : Batch) (key : Key) (response : Http.Response) (site : Site σ) :
    Except FetchError Path × Site σ :=
  if !response.isSuccess then (.error (.status response.status), site)
  else
    match Json.parse response.body with
    | .error e => (.error (.json e), site)
    | .ok value =>
      match Artifact.write (batch.artifactPath key) value site with
      | (.error e, site) => (.error e, site)
      | (.ok (), site) => (.ok (batch.artifactPath key), site)

/-- Fetches the file of a key and writes it. Each stage is reached only if the one
before it succeeded. -/
def fetchOne (net : Network σ) (batch : Batch) (key : Key) (site : Site σ) :
    Except FetchError Path × Site σ :=
  match batch.source.resource key with
  | .error fault => (.error (.url fault), site)
  | .ok url =>
    match Http.get net batch.http url site with
    | (.error e, site) => (.error (.network e), site)
    | (.ok response, site) => batch.keep key response site

/-! ## Progress -/

/-- The list of all keys, as it is announced at the start. -/
def keyList : String :=
  "[" ++ ", ".intercalate (Key.all.map fun key => s!"'{key}'") ++ "]"

/-- A line of progress in the pieces in which it is written. -/
def linePieces (texts : List String) : List Bytes := (texts ++ ["\n"]).map Utf8.encode

/-- The pieces of the line with all keys. -/
def keyListPieces : List Bytes := linePieces [keyList]

/-- The pieces of the line for a key. -/
def gotPieces (key : Key) : List Bytes := linePieces ["Got ", key.text]

/-! ## Many files -/

/-- Fetches the files of a list of keys and announces each of them. The answer lists
the files behind those in `written`. -/
def fetchAll (net : Network σ) (batch : Batch) (written : List Path) :
    List Key → Site σ → Except BatchError (List Path) × Site σ
  | [], site => (.ok written, site)
  | key :: keys, site =>
    match batch.fetchOne net key site with
    | (.error e, site) => (.error (.key ⟨key, e⟩), site.log (.fetchFailed key e))
    | (.ok path, site) =>
      match site.printAll (gotPieces key) with
      | (.error e, site) => (.error (.output e), site)
      | (.ok (), site) =>
        batch.fetchAll net (written ++ [path]) keys (site.log (.artifactWritten key path))

/-- Announces what is to come in the given pieces, and then fetches the files of a list of
keys. The answer lists them in the order of their keys. -/
def runOver (net : Network σ) (batch : Batch) (announcement : List Bytes) (keys : List Key)
    (site : Site σ) : Except BatchError (List Path) × Site σ :=
  match site.printAll announcement with
  | (.error e, site) => (.error (.output e), site)
  | (.ok (), site) =>
    let site := site.log (.startingBatch batch.source.base.text batch.outDir Key.count)
    match batch.fetchAll net [] keys site with
    | (.error e, site) => (.error e, site)
    | (.ok written, site) => (.ok written, site.log (.batchComplete written.length))

def run (net : Network σ) (batch : Batch) (site : Site σ) :
    Except BatchError (List Path) × Site σ :=
  batch.runOver net keyListPieces Key.all site

end Batch

end VectorFetch

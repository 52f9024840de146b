import VectorFetch.Files.Basic
import VectorFetch.Http.Message
import VectorFetch.Http.Request
import VectorFetch.Log.Event
import VectorFetch.Url.Basic

/-!
# Sites

A site is what a run works on: files, a server, and a sink for the lines of progress.
It also remembers what was done to it and what was logged.

* `Network`: which servers take connections, how they answer, and what is said about a transfer
  that failed. A server may remember the requests so far.
* `Effect`, `Site`: one thing that was done, and the whole site.
* `Site.ask`, `Site.create`, `Site.openForAppend`, `Site.store`, `Site.makeDirectories`,
  `Site.print`, `Site.log`: everything that can be done to a site.
* `Effect.replay`: does the same to files alone.
-/

namespace VectorFetch

/-! ## Servers -/

/-- Which servers take connections and how they answer, and what is said about failures. -/
structure Network (σ : Type) where
  /-- Why a server takes no connection, if it takes none. -/
  refusal? : Http.Address → Option Http.TransferFault
  /-- The reply to a request, and what the server remembers from then on. -/
  respond : σ → Http.Request → Http.Reply × σ
  /-- What the transport adds to the name of a fault, for a transfer of this URL that has come
  so far. -/
  detail : σ → Url → Http.TransferFault → Option String

/-! ## Effects -/

/-- One thing that was done to a site. -/
inductive Effect where
  /-- A request was sent. -/
  | request (request : Http.Request)
  /-- A file was opened and emptied, or made. -/
  | create (path : Path)
  /-- A file was opened, or made. -/
  | openForAppend (path : Path)
  /-- Bytes were written behind the end of a file, as many as it took. -/
  | store (place : Place) (bytes : Bytes)
  /-- A directory was made, and those above it. -/
  | makeDirectories (path : Path)
  /-- Bytes of progress were accepted. -/
  | print (bytes : Bytes)
  deriving DecidableEq, Repr

/-- Does the same to files alone. -/
def Effect.replay (cwd : Place) (files : Files) : Effect → Files
  | .create path =>
    match files.create cwd path with
    | .ok (_, files) => files
    | .error _ => files
  | .openForAppend path =>
    match files.openForAppend cwd path with
    | .ok (_, files) => files
    | .error _ => files
  | .store place bytes => (files.store place bytes).2
  | .makeDirectories path => (files.makeDirectories cwd path).2
  | .request _ | .print _ => files

/-! ## Sites -/

/-- What a run works on. -/
structure Site (σ : Type) where
  files : Files
  /-- The directory at which relative paths start. -/
  cwd : Place
  server : σ
  progress : Sink
  /-- What was done, in order. -/
  effects : List Effect
  /-- What was logged, in order. -/
  events : List Event

namespace Site

variable {σ : Type}

def start (files : Files) (cwd : Place) (server : σ) (progress : Sink) : Site σ :=
  ⟨files, cwd, server, progress, [], []⟩

def record (site : Site σ) (effect : Effect) : Site σ :=
  { site with effects := site.effects ++ [effect] }

def log (site : Site σ) (event : Event) : Site σ := { site with events := site.events ++ [event] }

/-- Sends a request, if the server takes connections. -/
def ask (net : Network σ) (site : Site σ) (address : Http.Address) :
    Except Http.TransferFault Http.Reply × Site σ :=
  match net.refusal? address with
  | some e => (.error e, site)
  | none =>
    let (reply, server) := net.respond site.server ⟨address⟩
    (.ok reply, { site with server }.record (.request ⟨address⟩))

/-- Creates a file, or empties the one that is there. -/
def create (site : Site σ) (path : Path) : Except IoError Place × Site σ :=
  match site.files.create site.cwd path with
  | .error e => (.error e, site)
  | .ok (place, files) => (.ok place, { site with files }.record (.create path))

/-- Opens a file to write behind its end. A missing file is made. -/
def openForAppend (site : Site σ) (path : Path) : Except IoError Place × Site σ :=
  match site.files.openForAppend site.cwd path with
  | .error e => (.error e, site)
  | .ok (place, files) => (.ok place, { site with files }.record (.openForAppend path))

/-- Writes behind the end of an open file. -/
def store (site : Site σ) (place : Place) (bytes : Bytes) : Except IoError Unit × Site σ :=
  let (result, files) := site.files.store place bytes
  (result, { site with files }.record (.store place bytes))

/-- Batch after batch, up to the first one that does not fit. -/
def storeAll (site : Site σ) (place : Place) : List Bytes → Except IoError Unit × Site σ
  | [] => (.ok (), site)
  | batch :: rest =>
    match site.store place batch with
    | (.error e, site) => (.error e, site)
    | (.ok (), site) => site.storeAll place rest

/-- Makes a directory and the missing ones above it. -/
def makeDirectories (site : Site σ) (path : Path) : Except IoError Unit × Site σ :=
  let (result, files) := site.files.makeDirectories site.cwd path
  (result, { site with files }.record (.makeDirectories path))

/-- Writes to the sink for progress. What it took is remembered also when it failed. -/
def print (site : Site σ) (bytes : Bytes) : Except IoError Unit × Site σ :=
  let (result, progress) := site.progress.takeAll bytes
  let taken := progress.taken.drop site.progress.taken.length
  (result, { site with progress }.record (.print taken))

/-- Piece after piece, up to the first one that is refused. -/
def printAll (site : Site σ) : List Bytes → Except IoError Unit × Site σ
  | [] => (.ok (), site)
  | piece :: rest =>
    match site.print piece with
    | (.error e, site) => (.error e, site)
    | (.ok (), site) => site.printAll rest

end Site

end VectorFetch

import VectorFetch.Config.Basic
import VectorFetch.Failure

/-!
# Log events

* `Event`: everything that is logged.
* `Log.Level`, `Log.Record`: how severe an event is, where it comes from, and what it
  says.
* `Event.record`, `Log.Record.text`: an event as a record, and a record as a line.
-/

namespace VectorFetch

namespace Log

/-- How severe an event is, from the least to the most. -/
inductive Level where
  | trace
  | debug
  | info
  | warn
  | error
  deriving DecidableEq, Repr

/-- The place of a level: the more severe, the lower. -/
def Level.rank : Level → Nat
  | .error => 1
  | .warn => 2
  | .info => 3
  | .debug => 4
  | .trace => 5

def Level.name : Level → String
  | .trace => "TRACE"
  | .debug => "DEBUG"
  | .info => "INFO"
  | .warn => "WARN"
  | .error => "ERROR"

/-- An event as it is filtered and written. -/
structure Record where
  level : Level
  target : String
  message : String
  /-- Further values by their names, as they are written. -/
  fields : List (String × String)
  deriving DecidableEq, Repr

/-- The message with the fields behind it. -/
def Record.body (r : Record) : String :=
  r.message ++ String.join (r.fields.map fun (name, value) => s!" {name}={value}")

/-- The line of a record, from its level on. -/
def Record.text (r : Record) : String := s!"{r.level.name} {r.target}: {r.body}"

end Log

/-! ## Events -/

/-- Everything that is logged. -/
inductive Event where
  /-- A run begins. -/
  | startingBatch (source : String) (outDir : Path) (count : Nat)
  /-- A transfer gave a response. -/
  | responded (url : String) (status bytes : Nat)
  /-- A file is written and announced. -/
  | artifactWritten (key : Key) (path : Path)
  /-- A file was not fetched, which ends the run. -/
  | fetchFailed (key : Key) (error : FetchError)
  /-- A run is complete. -/
  | batchComplete (count : Nat)
  /-- A configuration file was made. -/
  | configCreated (path : Path)
  /-- The program uses this configuration. -/
  | configLoaded (config : Config)
  /-- The program has fetched everything. -/
  | vectorsFetched (count : Nat)
  /-- The program failed. -/
  | runFailed (chain : String)
  /-- The log goes to the error output. -/
  | logFileUnavailable (chain : String)
  /-- The log goes to a file. -/
  | logInitialized (path : Path)
  deriving DecidableEq, Repr

namespace Event

def record : Event → Log.Record
  | .startingBatch source outDir count =>
    ⟨.info, "tvfetch_core::batch", "starting batch",
      [("source", source), ("out_dir", outDir.text), ("count", count.repr)]⟩
  | .responded url status bytes =>
    ⟨.debug, "tvfetch_core::http", "GET complete",
      [("url", url), ("status", status.repr), ("bytes", bytes.repr)]⟩
  | .artifactWritten key path =>
    ⟨.debug, "tvfetch_core::batch", "artifact written",
      [("key", key.text), ("path", path.text)]⟩
  | .fetchFailed key error =>
    ⟨.error, "tvfetch_core::batch", "fetch failed, halting",
      [("key", key.text), ("kind", "\"" ++ error.kind ++ "\""), ("error", error.description)]⟩
  | .batchComplete count =>
    ⟨.info, "tvfetch_core::batch", "batch complete", [("count", count.repr)]⟩
  | .configCreated path =>
    ⟨.info, "tvfetch_core::config", s!"created default config at {path}", []⟩
  | .configLoaded config =>
    ⟨.debug, "tvfetch::cli", s!"loaded config: {config.description}", []⟩
  | .vectorsFetched count => ⟨.info, "tvfetch::cli", s!"fetched {count} vectors", []⟩
  | .runFailed chain => ⟨.error, "tvfetch", s!"run failed: {chain}", []⟩
  | .logFileUnavailable chain =>
    ⟨.warn, "tvfetch", s!"log file unavailable, logging to stderr: {chain}", []⟩
  | .logInitialized path =>
    ⟨.info, "tvfetch_core::logging", s!"tvfetch logging initialized at {path}", []⟩

/-- The line of an event, from its level on. -/
def text (e : Event) : String := e.record.text

end Event

end VectorFetch

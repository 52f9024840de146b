import VectorFetch.Environment
import VectorFetch.Log.Filter

/-!
# Where the log goes

* `Log.openFile`: the log file, in its directory, both made if they are missing.
* `Log.OpenError`: why there is none.
* `Log.lines`: what is written for events.
-/

namespace VectorFetch.Log

variable {σ : Type}

/-- Why there is no log file. -/
inductive OpenError where
  /-- No home directory is known. -/
  | homeless
  /-- Its directory cannot be made. -/
  | directory (error : IoError)
  /-- It cannot be opened. -/
  | file (path : Path) (error : IoError)
  /-- The log goes somewhere already. -/
  | running
  deriving DecidableEq, Repr

/-- The message and those of the causes. -/
def OpenError.chain : OpenError → List String
  | .homeless => Environment.PlaceError.homeless.chain
  | .directory error => "create log directory" :: error.chain
  | .file path error => s!"open {path}" :: error.chain
  | .running => ["install subscriber: a global default trace dispatcher has already been set"]

/-- The name of the log file. -/
def fileName : String := "tvfetch.log"

/-- The path of the log file, in its directory, which is made first. -/
def place (env : Environment) (site : Site σ) : Except OpenError Path × Site σ :=
  match site.placeFile env env.stateDir fileName with
  | (.error .homeless, site) => (.error .homeless, site)
  | (.error (.directory e), site) => (.error (.directory e), site)
  | (.ok path, site) => (.ok path, site)

/-- The log file. It is made if it is missing, even where the log goes somewhere already. -/
def openFile (env : Environment) (running : Bool) (site : Site σ) :
    Except OpenError (Path × Place) × Site σ :=
  match place env site with
  | (.error e, site) => (.error e, site)
  | (.ok path, site) =>
    match site.openForAppend path with
    | (.error e, site) => (.error (.file path e), site)
    | (.ok place, site) => if running then (.error .running, site) else (.ok (path, place), site)

/-- A level at the end of a column. -/
def Level.column (level : Level) : String :=
  String.ofList (List.replicate (5 - level.name.length) ' ') ++ level.name

/-- The line of a record behind the time at which it was logged. -/
def Record.line (time : String) (r : Record) : String :=
  s!"{time} {r.level.column} {r.target}: {r.body}\n"

/-- What is written for events. Those that the filter does not admit are left out. -/
def lines (filter : Filter) (time : String) (events : List Event) : List String :=
  ((events.map Event.record).filter filter.admits).map (Record.line time)

end VectorFetch.Log

import VectorFetch.Arguments
import VectorFetch.Batch
import VectorFetch.Config.File
import VectorFetch.Failure.Chain
import VectorFetch.Log.Output

/-!
# The program

The program opens its log, looks at its arguments, loads the configuration and fetches
the whole key space into the current directory.

* `Program.batch`: the one batch that the program knows.
* `Program.standardOutput`, `Program.attach`: what the program sees of the descriptor it writes to.
* `Program.fetch`: loads the configuration and fetches everything.
* `Program.perform`: does what the arguments ask for.
* `Program.run`: all of it, from the log on, with an exit status.
-/

namespace VectorFetch.Program

variable {σ : Type}

/-! ## Fetching -/

/-- The fixed source, into the current directory. -/
def batch (http : Http.Options) : Batch := ⟨.fixed, ⟨"."⟩, http⟩

/-- Why the program failed. -/
inductive Failure where
  | config (error : Config.LoadError)
  | batch (error : BatchError)
  deriving DecidableEq, Repr

/-- The message and those of the causes. -/
def Failure.chain (wording : Toml.Wording) : Failure → List String
  | .config error => "load config" :: error.chain wording
  | .batch error => error.chain

/-- Loads the configuration and fetches everything. The answer lists the files. -/
def fetch (net : Network σ) (env : Environment) (site : Site σ) :
    Except Failure (List Path) × Site σ :=
  match Config.load env site with
  | (.error e, site) => (.error (.config e), site)
  | (.ok config, site) =>
    match (batch config.http.options).run net (site.log (.configLoaded config)) with
    | (.error e, site) => (.error (.batch e), site)
    | (.ok written, site) => (.ok written, site.log (.vectorsFetched written.length))

/-! ## The standard output -/

/-- The descriptor that a sink stands for is not open for writing. -/
def isShut (descriptor : Sink) : Bool :=
  match descriptor.refusal with
  | .failure e => e.error = .os 9
  | .silence => false

/-- The standard output, as the program sees it. What cannot be written because the descriptor is
not open for writing counts as written. -/
def standardOutput (descriptor : Sink) : Sink :=
  if isShut descriptor then { descriptor with room := none } else descriptor

/-- What a descriptor has got when so much has been written to the standard output. -/
def arrived (descriptor written : Sink) : Bytes :=
  if isShut descriptor then
    (descriptor.takeAll (written.taken.drop descriptor.taken.length)).2.taken
  else written.taken

/-- The site with the standard output in place of its descriptor. -/
def attach (site : Site σ) : Site σ := { site with progress := standardOutput site.progress }

/-! ## Running -/

/-- How a run ended: its exit status, and what it has to say about an error. -/
structure Outcome where
  status : Nat
  message : String
  deriving DecidableEq, Repr

/-- Prints a text. Whether it is taken has no consequence. -/
def say (text : String) (site : Site σ) : Site σ := (site.print (Utf8.encode text)).2

/-- Does what the arguments ask for. -/
def perform (wording : Toml.Wording) (net : Network σ) (env : Environment) (command : Command)
    (site : Site σ) : Outcome × Site σ :=
  match command with
  | .help => (⟨0, ""⟩, say helpText site)
  | .version => (⟨0, ""⟩, say versionText site)
  | .misuse misuse => (⟨2, misuse.text⟩, site)
  | .run =>
    match fetch net env site with
    | (.ok _, site) => (⟨0, ""⟩, site)
    | (.error e, site) =>
      let text := chainText (e.chain wording)
      (⟨1, s!"tvfetch error: {text}\n"⟩, site.log (.runFailed text))

/-- Opens the log file. If that fails the log goes to the error output. -/
def openLog (env : Environment) (site : Site σ) : Option Place × Site σ :=
  match Log.openFile env false site with
  | (.ok (path, place), site) => (some place, site.log (.logInitialized path))
  | (.error e, site) => (none, site.log (.logFileUnavailable (chainText e.chain)))

/-- Writes lines to the log file. What it does not take is lost. -/
def writeLog (place : Place) (lines : List String) (site : Site σ) : Site σ :=
  lines.foldl (fun site line => (site.store place (Utf8.encode line)).2) site

/-- Everything that the program leaves behind besides the site. -/
structure Report where
  status : Nat
  /-- What has arrived at the standard output. -/
  output : Bytes
  /-- What was written to the error output. -/
  errors : String
  deriving DecidableEq, Repr

/-- Runs the program on a site where nothing has been logged yet. Its sink is the descriptor of the
standard output; `time` is when the events happen, and `wording` is that of the reader of TOML. -/
def run (wording : Toml.Wording) (net : Network σ) (env : Environment) (time : String)
    (arguments : List String) (site : Site σ) : Report × Site σ :=
  let descriptor := site.progress
  let (logFile, site) := openLog env (attach site)
  let (outcome, site) := perform wording net env (Command.parse arguments) site
  let lines := Log.lines (.ofVariable env.logFilter) time site.events
  let output := arrived descriptor site.progress
  match logFile with
  | some place => (⟨outcome.status, output, outcome.message⟩, writeLog place lines site)
  | none => (⟨outcome.status, output, String.join lines ++ outcome.message⟩, site)

end VectorFetch.Program

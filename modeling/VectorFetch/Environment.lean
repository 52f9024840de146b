import VectorFetch.Site

/-!
# The environment

The configuration and the log each have a directory below a base directory of the user.
The environment may name the base directories; otherwise they lie in the home directory. A user
without a home directory has neither.

* `Environment`: the variables that matter.
* `Environment.configDir`, `Environment.stateDir`: the directories.
* `Site.placeFile`: the path of a file in a directory, which is made first.
* `Environment.PlaceError`: why there is no such path.
-/

namespace VectorFetch

/-- The variables that matter. -/
structure Environment where
  /-- The home directory of the user, if one is known. -/
  home : Option String
  /-- The base directory of configurations. -/
  configHome : Option String
  /-- The base directory of logs. -/
  stateHome : Option String
  /-- Which events are logged. -/
  logFilter : Option String
  deriving DecidableEq, Repr

namespace Environment

/-- The name of the program's own directories. -/
def programName : String := "tvfetch"

/-- A base directory, for a user with a home directory. Only an absolute path is taken from the
environment. -/
def base (env : Environment) (named : Option String) (inHome : String) : Path :=
  let usual := Path.join ⟨env.home.getD ""⟩ inHome
  match named with
  | some text => if text.startsWith "/" then ⟨text⟩ else usual
  | none => usual

def configDir (env : Environment) : Path :=
  (env.base env.configHome ".config").join programName

def stateDir (env : Environment) : Path :=
  (env.base env.stateHome ".local/state").join programName

/-- Why a file of the user has no path. -/
inductive PlaceError where
  /-- No home directory is known. -/
  | homeless
  /-- The directory cannot be made. -/
  | directory (error : IoError)
  deriving DecidableEq, Repr

/-- The message and those of the causes. -/
def PlaceError.chain : PlaceError → List String
  | .homeless => ["$HOME must be set"]
  | .directory error => error.chain

end Environment

/-- The path of a file in a directory of the user, which is made first. -/
def Site.placeFile {σ : Type} (env : Environment) (site : Site σ) (dir : Path) (name : String) :
    Except Environment.PlaceError Path × Site σ :=
  if env.home.isNone then (.error .homeless, site)
  else
    match site.makeDirectories dir with
    | (.error e, site) => (.error (.directory e), site)
    | (.ok (), site) => (.ok (dir.join name), site)

end VectorFetch

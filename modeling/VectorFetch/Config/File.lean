import VectorFetch.Config.Toml
import VectorFetch.Environment

/-!
# The configuration file

* `Config.place`: where the file is.
* `Config.load`: the configuration of the file. A file that is not there is made.
* `Config.LoadError`: why there is none.
-/

namespace VectorFetch.Config

/-- Why there is no configuration. -/
inductive LoadError where
  /-- There is no place for the file. -/
  | place (error : Environment.PlaceError)
  /-- The file cannot be made or read. -/
  | io (error : IoError)
  /-- The text in the file gives no configuration. -/
  | parse (path : Path) (text : String) (error : ReadError)
  deriving DecidableEq, Repr

namespace LoadError

/-- The message and those of the causes, with the wording for a text that is no document. -/
def chain (wording : Toml.Wording) : LoadError → List String
  | .place error => error.chain
  | .io error => error.chain
  | .parse path text .malformed => [s!"parse {path}", wording text]
  | .parse path text (.mismatch mismatch) => [s!"parse {path}", mismatch.excerpt text]

end LoadError

variable {σ : Type}

def fileName : String := "config.toml"

/-- The path of the file, in its directory, which is made first. -/
def place (env : Environment) (site : Site σ) :
    Except Environment.PlaceError Path × Site σ :=
  site.placeFile env env.configDir fileName

/-- The text of the configuration that is used when nothing is set. -/
def defaultText : String :=
  match Config.default.write with
  | .ok text => text
  | .error _ => ""

/-- Makes the file with the default configuration. -/
def create (path : Path) (site : Site σ) : Except LoadError Config × Site σ :=
  match site.create path with
  | (.error e, site) => (.error (.io e), site)
  | (.ok place, site) =>
    match site.store place (Utf8.encode defaultText) with
    | (.error e, site) => (.error (.io e), site)
    | (.ok (), site) => (.ok .default, site.log (.configCreated path))

def read (path : Path) (site : Site σ) : Except LoadError Config :=
  match site.files.read site.cwd path with
  | .error e => .error (.io e)
  | .ok content =>
    match Utf8.text? content with
    | none => .error (.io .notText)
    | some text =>
      match Config.parse text with
      | .ok config => .ok config
      | .error e => .error (.parse path text e)

/-- The configuration of the file. A file that is not there is made. -/
def load (env : Environment) (site : Site σ) : Except LoadError Config × Site σ :=
  match place env site with
  | (.error e, site) => (.error (.place e), site)
  | (.ok path, site) =>
    if site.files.isThere site.cwd path then (read path site, site) else create path site

end VectorFetch.Config

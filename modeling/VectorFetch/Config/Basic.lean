import VectorFetch.Http.Options

/-!
# Configuration

* `HttpSettings`, `Config`: what can be set, and the values without a setting.
* `HttpSettings.options`: the options of a transfer.
* `Config.description`: the form in structured logs.
-/

namespace VectorFetch

/-- How files are fetched. -/
structure HttpSettings where
  /-- Seconds to wait for a connection; without a number there is no end. -/
  connectTimeoutSecs : Option UInt64
  followRedirects : Bool
  maxRedirections : UInt32
  deriving DecidableEq, Repr

/-- Everything that can be set. -/
structure Config where
  http : HttpSettings
  deriving DecidableEq, Repr

namespace HttpSettings

/-- The settings that are used when nothing is set. -/
def default : HttpSettings :=
  ⟨none, Http.Options.default.followRedirects, Http.Options.default.maxRedirections⟩

/-- The options of a transfer under these settings. -/
def options (s : HttpSettings) : Http.Options :=
  ⟨s.connectTimeoutSecs.map Duration.ofSeconds, s.followRedirects, s.maxRedirections⟩

/-- The form in structured logs. -/
def description (s : HttpSettings) : String :=
  let timeout := match s.connectTimeoutSecs with
    | some n => "Some(" ++ n.toNat.repr ++ ")"
    | none => "None"
  "HttpConfig \x7b connect_timeout_secs: " ++ timeout ++ ", follow_redirects: "
    ++ toString s.followRedirects ++ ", max_redirections: " ++ s.maxRedirections.toNat.repr
    ++ " \x7d"

end HttpSettings

namespace Config

/-- The configuration that is used when nothing is set. -/
def default : Config := ⟨.default⟩

/-- The form in structured logs. -/
def description (c : Config) : String :=
  "TvfetchConfig \x7b http: " ++ c.http.description ++ " \x7d"

end Config

end VectorFetch

import VectorFetch.Proofs.Growth

/-!
# Sessions

* `Session`, `Call`, `Session.run`: calls for the configuration and for the log, in any order. What
  they log goes to the log file.
* `step_onward`, `run_onward`: what one call and what all of them do to files.
* `answers_of_isThere`, `answers_of_isCreatable`: loads after the first give its answer.
* `run_safe`: no call harms a file, and the configuration stays the same.
-/

namespace VectorFetch

/-! ## Calls -/

/-- A call for the path of a file, for the configuration, or for the log. -/
inductive Call where
  | configPath
  | logPath
  | load
  | startLog
  deriving DecidableEq, Repr

/-- A site between calls. -/
structure Session (σ : Type) where
  site : Site σ
  /-- The log goes somewhere already. -/
  running : Bool
  /-- The log file, if the log goes to one. -/
  log : Option Place

namespace Session

variable {σ : Type}

/-- A session in which there is no log file yet. -/
def start (site : Site σ) (running : Bool) : Session σ := ⟨site, running, none⟩

def perform (env : Environment) (s : Session σ) : Call → Session σ
  | .configPath => { s with site := (Config.place env s.site).2 }
  | .logPath => { s with site := (Log.place env s.site).2 }
  | .load => { s with site := (Config.load env s.site).2 }
  | .startLog =>
    match Log.openFile env s.running s.site with
    | (.ok (path, place), site) => ⟨site.log (.logInitialized path), true, some place⟩
    | (.error _, site) => { s with site }

/-- Writes what was logged behind so many events to the log file. -/
def flush (env : Environment) (time : String) (known : Nat) (s : Session σ) : Session σ :=
  match s.log with
  | some place =>
    let lines := Log.lines (.ofVariable env.logFilter) time (s.site.events.drop known)
    { s with site := Program.writeLog place lines s.site }
  | none => s

/-- A call at a time. What it logs is written at once. -/
def step (env : Environment) (s : Session σ) (call : String × Call) : Session σ :=
  (s.perform env call.2).flush env call.1 s.site.events.length

/-- Call after call. -/
def run (env : Environment) (s : Session σ) (calls : List (String × Call)) : Session σ :=
  calls.foldl (step env) s

end Session

/-! ## Calls and files -/

namespace Session

variable {σ : Type} {env : Environment} {a b c : Session σ}

/-- A log that goes to a file goes to the log file. -/
def Sound (env : Environment) (s : Session σ) : Prop :=
  ∀ place, s.log = some place → env.LogAt s.site.cwd s.site.files place

/-- One session behind another. -/
structure Onward (env : Environment) (before after : Session σ) : Prop where
  behind : Site.Behind env before.site after.site
  sound : after.Sound env

theorem Onward.trans (first : Onward env a b) (second : Onward env b c) : Onward env a c :=
  ⟨first.behind.trans second.behind, second.sound⟩

/-- The log goes where it went before. -/
theorem Onward.of_behind (sound : a.Sound env) {site : Site σ}
    (behind : Site.Behind env a.site site) : Onward env a { a with site } :=
  ⟨behind, fun place same => logAt_of_behind behind (sound place same)⟩

theorem perform_onward (sound : a.Sound env) (call : Call) : Onward env a (a.perform env call) := by
  cases call with
  | configPath =>
    exact .of_behind sound (Site.Behind.placeFile env (.inl rfl) a.site Config.fileName)
  | logPath => exact .of_behind sound (Log.place_behind env a.site).1
  | load => exact .of_behind sound (Config.load_behind env a.site)
  | startLog =>
    obtain ⟨behind, here⟩ := Log.openFile_behind env a.running a.site
    unfold perform
    generalize Log.openFile env a.running a.site = result at behind here ⊢
    obtain ⟨_ | ⟨path, place⟩, site⟩ := result
    · exact .of_behind sound behind
    · refine ⟨behind.log _, fun other same => ?_⟩
      cases same
      exact here path place rfl

theorem flush_onward (sound : a.Sound env) (time : String) (known : Nat) :
    Onward env a (a.flush env time known) := by
  unfold flush
  split
  next place goes => exact .of_behind sound (Program.writeLog_behind _ (sound place goes))
  next => exact ⟨.refl env a.site, sound⟩

theorem step_onward (sound : a.Sound env) (call : String × Call) :
    Onward env a (a.step env call) := by
  have performed := perform_onward sound call.2
  exact performed.trans (flush_onward performed.sound call.1 _)

theorem run_onward (sound : a.Sound env) (calls : List (String × Call)) :
    Onward env a (a.run env calls) := by
  -- By induction on the calls; that the log is the log file is kept by each of them.
  induction calls generalizing a with
  | nil => exact ⟨.refl env a.site, sound⟩
  | cons call calls ih =>
    have stepped := step_onward sound call
    exact stepped.trans (ih stepped.sound)

/-! ## Loads -/

/-- From here on each load gives this answer and leaves everything as it is. It only asks for the
directory once more. -/
def Answers (env : Environment) (s : Session σ) (answer : Except Config.LoadError Config) : Prop :=
  ∀ calls, Config.load env (s.run env calls).site =
    (answer, (s.run env calls).site.record (.makeDirectories env.configDir))

/-- What is at the path of the configuration file stays there. -/
def KeepsConfig (env : Environment) (s : Session σ) : Prop :=
  ∀ calls place, env.ConfigAt s.site.cwd s.site.files place →
    (s.run env calls).site.files.node? place = s.site.files.node? place

theorem answers_of_isThere (sound : a.Sound env) (home : env.home.isSome)
    (there : a.site.files.isThere a.site.cwd env.configPath) :
    a.Answers env (Config.read env.configPath a.site) := by
  intro calls
  obtain ⟨still, same⟩ := Config.read_of_behind (run_onward sound calls).behind there
  rw [Config.load_of_isThere home still, same]

theorem keepsConfig_of_isThere (sound : a.Sound env)
    (there : a.site.files.isThere a.site.cwd env.configPath) : a.KeepsConfig env := by
  intro calls place here
  obtain ⟨place', here', filled⟩ := env.isThere_configPath_iff.1 there
  cases here.symm.trans here'
  exact (run_onward sound calls).behind.grows.config_eq here filled

/-- After a load that made the file, each load gives what is used when nothing is set. -/
theorem answers_of_isCreatable (sound : a.Sound env) (creatable : Config.isCreatable env a.site)
    (time : String) : (a.step env (time, .load)).Answers env (.ok .default) := by
  obtain ⟨-, holds⟩ := Config.load_of_isCreatable creatable
  -- The load itself made the file. What it logged is written behind the log after that.
  have performed := perform_onward sound .load
  have stepped := step_onward sound (time, .load)
  have flushed := flush_onward performed.sound time a.site.events.length
  rw [← performed.behind.cwd] at holds
  have there := Files.isThere_of_read holds
  have same : Config.read env.configPath (a.step env (time, .load)).site = .ok .default :=
    (Config.read_of_behind flushed.behind there).2.trans (Config.read_of_defaultText holds)
  rw [← same]
  exact answers_of_isThere stepped.sound (Config.home_of_isCreatable creatable)
    (Config.read_of_behind flushed.behind there).1

/-- What a session has come to: files have only grown, a configuration file that is missing can be
made for good, and one that is there is kept. A user without a home directory has none. -/
structure Safe (env : Environment) (first s : Session σ) : Prop where
  grows : Grows env first.site.cwd first.site.files s.site.files
  made : Config.isCreatable env s.site →
    (Config.load env s.site).1 = .ok .default ∧
      (Config.load env s.site).2.files.read s.site.cwd env.configPath =
        .ok (Utf8.encode Config.defaultText) ∧
      ∀ time, (s.step env (time, .load)).Answers env (.ok .default)
  kept : s.site.files.isThere s.site.cwd env.configPath → s.KeepsConfig env ∧
    (env.home.isSome → s.Answers env (Config.read env.configPath s.site))
  refused : env.home.isSome → s.site.files.isThere s.site.cwd env.configPath →
    Config.IsUnusable env.configPath s.site → ∃ e, s.Answers env (.error e)
  homeless : env.home = none → ∀ calls, Config.load env (s.run env calls).site =
    (.error (.place .homeless), (s.run env calls).site)

/-- Whatever calls were made, and however they ended, no file is harmed and the configuration
stays the same. -/
theorem run_safe (env : Environment) (site : Site σ) (running : Bool)
    (calls : List (String × Call)) :
    Safe env (start site running) ((start site running).run env calls) := by
  have quiet : (start site running).Sound env := nofun
  have onward := run_onward quiet calls
  exact {
    grows := onward.behind.grows
    made := fun creatable =>
      let ⟨answer, holds⟩ := Config.load_of_isCreatable creatable
      ⟨answer, holds, answers_of_isCreatable onward.sound creatable⟩
    kept := fun there => ⟨keepsConfig_of_isThere onward.sound there,
      fun home => answers_of_isThere onward.sound home there⟩
    refused := fun home there unusable =>
      let ⟨e, failed⟩ := Config.read_of_isUnusable unusable
      ⟨e, failed ▸ answers_of_isThere onward.sound home there⟩
    homeless := fun homeless _ => Config.load_of_homeless homeless _ }

end Session

end VectorFetch

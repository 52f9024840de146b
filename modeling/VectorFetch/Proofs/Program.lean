import VectorFetch.Proofs.Batch.Rerun
import VectorFetch.Proofs.Batch.Story
import VectorFetch.Proofs.Failure.Causes
import VectorFetch.Proofs.Http.Address
import VectorFetch.Proofs.Http.Framing
import VectorFetch.Proofs.Program.Quiet
import VectorFetch.Proofs.Source

/-!
# Runs of the program

* `Delivered`: the file of every key is written and announced.
* `arrived_of_open`, `arrived_of_isShut`: what arrives where the standard output can be written to,
  and where it cannot.
* `Unconfigured`, `Configured`, `run_course`: a run without arguments, by whether there is a
  configuration.
* `run_succeeds`: where nothing is in the way, the run succeeds.
-/

namespace VectorFetch

open Site Batch

variable {σ : Type} {env : Environment} {cwd : Place}

/-! ## Everything fetched -/

namespace Batch

variable {net : Network σ} {batch : Batch} {site last : Site σ}

/-- The file of every key is written, with the document of the key's own body, and announced. -/
structure Delivered (net : Network σ) (batch : Batch) (site last : Site σ) : Prop where
  written : ∀ k < Key.count, ∃ body value,
    batch.body? net (.ofNat k) (batch.before net site k) = some body ∧
    Json.parse body = .ok value ∧
    site.files.Keeps last.files site.cwd (batch.artifactPath (.ofNat k)) (Utf8.encode value.pretty)
  announced : last.progress = site.progress.accept (transcript Key.count)

/-- A run that fails has not announced every key. -/
theorem Heard.length_lt {e : BatchError} {attempted : Nat} {accepted : Bytes}
    (heard : Heard (.error e) attempted accepted) (within : attempted ≤ Key.count) :
    accepted.length < (transcript Key.count).length := by
  have longer : ∀ k < Key.count, (transcript k).length < (transcript Key.count).length := by
    intro k early
    have own := flatten_gotPieces_pos (.ofNat k)
    have later := length_transcript_le (Nat.succ_le_of_lt early)
    rw [transcript_succ, List.length_append] at later
    omega
  cases heard with
  | failed failure => exact longer _ failure.key.index_lt
  | unannounced _ short => exact Nat.lt_of_lt_of_le short (length_transcript_le (Nat.zero_le _))
  | unheard _ k short =>
    have later := length_transcript_le within
    rw [transcript_succ, List.length_append] at later
    rw [List.length_append]
    omega

theorem keeps_of_run {written : List Path} (ended : (batch.run net site).1 = .ok written) :
    ∀ k < Key.count, ∃ body value,
      batch.body? net (.ofNat k) (batch.before net site k) = some body ∧
      Json.parse body = .ok value ∧
      site.files.Keeps (batch.run net site).2.files site.cwd (batch.artifactPath (.ofNat k))
        (Utf8.encode value.pretty) := by
  have ends := run_ends net batch site
  generalize batch.run net site = result at ends ended ⊢
  cases ends with
  | heard verdict alike accepted =>
    cases verdict with
    | failed => cases ended
    -- Only a complete run has an answer without an error.
    | complete all =>
      intro k within
      have fetched : k < batch.fetches net site := by
        rw [fetches, all]
        omega
      rw [alike.files]
      exact keeps_before (all ▸ within) fetched (Nat.min_le_right _ _)
  | unannounced => cases ended
  | unheard => cases ended

/-- A run is complete if and only if everything is delivered, also if something else is written
behind it. -/
theorem run_isOk_iff {may : Place → Prop} (edits : (batch.run net site).2.files.Edits may last.files)
    (away : ∀ key place, (batch.run net site).2.files.locate site.cwd (batch.artifactPath key) =
      .ok ⟨place, false⟩ → ¬may place)
    (progress : last.progress = (batch.run net site).2.progress) :
    (batch.run net site).1.isOk ↔ Delivered net batch site last := by
  obtain ⟨attempted, accepted, told⟩ := exists_told net batch site
  have heard := told.heard
  constructor
  · intro complete
    cases ended : (batch.run net site).1 with
    | error e =>
      rw [ended] at complete
      cases complete
    | ok written =>
      rw [ended] at heard
      refine ⟨fun k within => ?_, ?_⟩
      · obtain ⟨body, value, answered, parsed, keeps⟩ := keeps_of_run ended k within
        refine ⟨body, value, answered, parsed, keeps.of_edits edits fun spot located => ?_⟩
        obtain ⟨dir, rfl⟩ := Files.locate_join_eq (Key.isName_fileName _) located
        exact away _ _ located
      · rw [progress, told.progress]
        cases heard
        rfl
  · intro delivered
    cases ended : (batch.run net site).1 with
    | ok written => rfl
    | error e =>
      rw [ended] at heard
      -- A run that failed has announced less than the whole transcript.
      have short := heard.length_lt told.within
      have taken := congrArg Sink.taken (told.progress.symm.trans (progress.symm.trans delivered.announced))
      have same : accepted = transcript Key.count := List.append_cancel_left taken
      rw [same] at short
      exact absurd short (Nat.lt_irrefl _)

end Batch

/-! ## The fixed source -/

/-- The fixed source is on the web. -/
theorem Source.exists_address (key : Key) : ∃ url address, Source.fixed.resource key = .ok url ∧
    Http.Address.ofText url.text = .ok address ∧ address.scheme = "https" := by
  obtain ⟨url, found, scheme, authority⟩ : ∃ url, Source.fixed.resource key = .ok url ∧
      url.scheme = "https" ∧ url.authority = Source.fixed.base.authority := ⟨_, rfl, rfl, rfl⟩
  obtain ⟨address, spelled, same, -⟩ :=
    Http.Address.ofText_text (isSound_of_resource parse_fixedText found) (.inr scheme) authority
      (by decide)
  exact ⟨url, address, found, spelled, same.trans scheme⟩

namespace Program

theorem utf8ByteSize_artifactPath_le (http : Http.Options) (key : Key) :
    ((batch http).artifactPath key).text.utf8ByteSize ≤ 4095 := by
  have filled : (⟨"."⟩ : Path).text ≠ "" := by decide
  obtain ⟨-, middle, text, slash⟩ := Path.join_of_ne key.isName_fileName filled
  have small := key.utf8ByteSize_fileName_le
  have mark : "/".utf8ByteSize = 1 ∧ ".".utf8ByteSize = 1 := by decide
  rw [batch, artifactPath, text, String.utf8ByteSize_append, String.utf8ByteSize_append, mark.2]
  rcases slash with rfl | rfl
  · rw [String.utf8ByteSize_empty]
    omega
  · omega

/-- A server that sends the same body whatever it is asked for sends it for every key. -/
theorem body?_of_frames {net : Network σ} {http : Http.Options} {status : Nat}
    {headers : List (String × String)} {body sent : Bytes} (usable : http.isUsable)
    (hasBody : Http.HasBody http status) (success : (⟨status, body⟩ : Http.Response).isSuccess)
    (frames : Http.Frames body headers sent) (reachable : ∀ address, net.refusal? address = none)
    (replies : ∀ server request, (net.respond server request).1 = .message status headers sent)
    (key : Key) (site : Site σ) : (batch http).body? net key site = some body := by
  obtain ⟨url, address, found, spelled, secure⟩ := Source.exists_address key
  have reaches : Http.Reaches net http url site.server (.message status headers sent) :=
    ⟨usable, address, [], address, site.server, spelled, .inr secure,
      fun other _ => reachable other, .here, Nat.zero_le _, replies _ _⟩
  exact body?_eq_some_iff.2 ⟨url, _, found, success, Http.get_of_frames hasBody reaches frames, rfl⟩

end Program

/-! ## Runs -/

/-- The log has another name than any artifact. -/
theorem not_logAt_of_artifact {files : Files} {place : Place} {outDir : Path} {key : Key}
    (artifact : files.locate cwd (outDir.join key.fileName) = .ok ⟨place, false⟩) :
    ¬env.LogAt cwd files place := by
  intro log
  obtain ⟨dir, here⟩ := Files.locate_join key.isName_fileName artifact
  obtain ⟨dir', here'⟩ := Files.locate_join Path.isName_logFile log
  have names := List.append_inj_right' (here.symm.trans here') rfl
  have letters := congrArg String.toList (List.singleton_inj.1 names)
  rw [Key.toList_fileName] at letters
  have lengths := congrArg List.length letters
  simp [Log.fileName] at lengths

namespace Program

/-- A text of whole lines. -/
def IsLines (lines : List String) : Prop := ∀ line ∈ lines, ∃ text, line = text ++ "\n"

/-- The error output ends in a line that tells a failure and its causes. -/
def Blames (wording : Toml.Wording) (failure : Failure) (errors : String) : Prop :=
  ∃ lines texts, IsLines lines ∧ Causes wording failure texts ∧
    errors = String.join lines ++ ("tvfetch error: " ++ ": ".intercalate texts ++ "\n")

theorem isLines_log (filter : Log.Filter) (time : String) (events : List Event) :
    IsLines (Log.lines filter time events) := by
  intro line member
  obtain ⟨record, -, rfl⟩ := List.mem_map.1 member
  rw [Log.Record.line]
  exact ⟨_, rfl⟩

/-! ### The standard output -/

theorem standardOutput_of_open {descriptor : Sink} (opened : isShut descriptor = false) :
    standardOutput descriptor = descriptor := by
  rw [standardOutput, opened, if_neg Bool.false_ne_true]

theorem room_standardOutput {descriptor : Sink} (shut : isShut descriptor) :
    (standardOutput descriptor).room = none := by
  rw [standardOutput, if_pos shut]

@[simp] theorem taken_standardOutput (descriptor : Sink) :
    (standardOutput descriptor).taken = descriptor.taken := by
  unfold standardOutput
  split
  · rfl
  · rfl

@[simp] theorem perCall_standardOutput (descriptor : Sink) :
    (standardOutput descriptor).perCall = descriptor.perCall := by
  unfold standardOutput
  split
  · rfl
  · rfl

theorem arrived_of_open {descriptor : Sink} (opened : isShut descriptor = false) (written : Sink) :
    arrived descriptor written = written.taken := by
  rw [arrived, opened, if_neg Bool.false_ne_true]

/-- Behind a descriptor that is not open for writing only what that has room for arrives. -/
theorem arrived_of_isShut {descriptor : Sink} (shut : isShut descriptor) (written : Bytes) :
    arrived descriptor ((standardOutput descriptor).accept written) =
      (descriptor.takeAll written).2.taken := by
  have taken : ((standardOutput descriptor).accept written).taken =
      descriptor.taken ++ written := by
    rw [Sink.accept, taken_standardOutput]
  rw [arrived, if_pos shut, taken, List.drop_left]

theorem arrived_standardOutput (descriptor : Sink) :
    arrived descriptor (standardOutput descriptor) = descriptor.taken := by
  cases shut : isShut descriptor with
  | false => rw [arrived_of_open shut, taken_standardOutput]
  | true =>
    have nothing := arrived_of_isShut shut []
    rwa [Sink.accept_nil, Sink.takeAll] at nothing

/-- What is written to the standard output arrives as if it were written to the descriptor. -/
theorem arrived_takeAll (descriptor : Sink) (bytes : Bytes) :
    arrived descriptor ((standardOutput descriptor).takeAll bytes).2 =
      (descriptor.takeAll bytes).2.taken := by
  cases shut : isShut descriptor with
  | false => rw [arrived_of_open shut, standardOutput_of_open shut]
  | true =>
    by_cases stuck : descriptor.perCall = some 0
    · -- A sink that takes nothing with a call takes nothing, with room or without.
      have stuckToo : (standardOutput descriptor).perCall = some 0 := by
        rw [perCall_standardOutput, stuck]
      rw [Sink.takeAll_snd_of_stuck stuckToo, Sink.takeAll_snd_of_stuck stuck,
        arrived_standardOutput]
    · have calls : (standardOutput descriptor).perCall ≠ some 0 := by
        rwa [perCall_standardOutput]
      rw [Sink.takeAll_of_room (room_standardOutput shut) calls, arrived_of_isShut shut]

/-! ### The log, written last -/

/-- What is left to do when the arguments were followed: the log is written. -/
structure Logged (may : Place → Prop) (outcome : Outcome) (descriptor : Sink) (performed : Site σ)
    (ended : Report × Site σ) : Prop where
  status : ended.1.status = outcome.status
  output : ended.1.output = arrived descriptor performed.progress
  errors : ∃ lines, IsLines lines ∧ ended.1.errors = String.join lines ++ outcome.message
  quiet : Quiet performed ended.2
  files : performed.files.Edits may ended.2.files

theorem run_logged (wording : Toml.Wording) (net : Network σ) (env : Environment) (time : String)
    (arguments : List String) (site : Site σ) {outcome : Outcome} {performed : Site σ}
    (followed : perform wording net env (Command.parse arguments) (openLog env (attach site)).2 =
      (outcome, performed)) :
    Logged (fun place => (openLog env (attach site)).1 = some place) outcome site.progress performed
      (run wording net env time arguments site) := by
  unfold run
  generalize openLog env (attach site) = opened at followed ⊢
  obtain ⟨_ | place, opened⟩ := opened
  · dsimp only at followed ⊢
    rw [followed]
    have lines := isLines_log (.ofVariable env.logFilter) time performed.events
    exact ⟨rfl, rfl, ⟨_, lines, rfl⟩, .refl performed, .refl _ _⟩
  · dsimp only at followed ⊢
    rw [followed]
    have written := writeLog_edits place
      (Log.lines (.ofVariable env.logFilter) time performed.events) performed
    dsimp only
    refine ⟨rfl, rfl, ⟨[], ?_, ?_⟩, writeLog_quiet _ _ _, written.mono ?_⟩
    · simp [IsLines]
    · simp
    · rintro here rfl
      rfl

theorem Logged.mono {may might : Place → Prop} {outcome : Outcome} {descriptor : Sink}
    {performed : Site σ} {ended : Report × Site σ}
    (logged : Logged may outcome descriptor performed ended)
    (wider : ∀ place, may place → might place) :
    Logged might outcome descriptor performed ended :=
  { logged with files := logged.files.mono wider }

/-! ### By the configuration -/

/-- A run without a configuration: it asks for nothing, prints nothing, and touches no file but the
log. A configuration file that was missing may have been begun. -/
structure Unconfigured (wording : Toml.Wording) (env : Environment) (e : Config.LoadError)
    (site : Site σ) (ended : Report × Site σ) : Prop where
  status : ended.1.status = 1
  output : ended.1.output = site.progress.taken
  errors : Blames wording (.config e) ended.1.errors
  quiet : Quiet (attach site) ended.2
  files : Spares env site.cwd site.files ended.2.files
  /-- Neither the configuration file nor an artifact is the log. -/
  others : ∀ place, (env.ConfigAt site.cwd ended.2.files place ∨ ∃ key,
      ended.2.files.locate site.cwd ((batch .default).artifactPath key) = .ok ⟨place, false⟩) →
    ¬env.LogAt site.cwd ended.2.files place

/-- How the answer of a batch is reported. -/
inductive Reported (wording : Toml.Wording) : Report → Except BatchError (List Path) → Prop where
  | success (written : List Path) (output : Bytes) (errors : String) :
      Reported wording ⟨0, output, errors⟩ (.ok written)
  | failure {e : BatchError} {errors : String} (output : Bytes)
      (blames : Blames wording (.batch e) errors) :
      Reported wording ⟨1, output, errors⟩ (.error e)

theorem Reported.status_eq_zero_iff {wording : Toml.Wording} {report : Report}
    {answer : Except BatchError (List Path)} (reported : Reported wording report answer) :
    report.status = 0 ↔ answer.isOk := by
  cases reported with
  | success => exact ⟨fun _ => rfl, fun _ => rfl⟩
  | failure => exact ⟨nofun, nofun⟩

/-- A run with a configuration. Behind what the log and the configuration file need, it is the run
of a batch. -/
structure Configured (wording : Toml.Wording) (net : Network σ) (env : Environment) (batch : Batch)
    (site start : Site σ) (ended : Report × Site σ) : Prop where
  quiet : Quiet (attach site) start
  requests : ended.2.requests = (batch.run net start).2.requests
  server : ended.2.server = (batch.run net start).2.server
  progress : ended.2.progress = (batch.run net start).2.progress
  /-- What the batch writes to its sink arrives. -/
  output : isShut site.progress = false →
    start.progress = site.progress ∧ ended.1.output = (batch.run net start).2.progress.taken
  /-- Without an open descriptor the batch writes to a sink without end, and of what it writes there
  as much arrives as the descriptor has room for. -/
  shut : isShut site.progress →
    start.progress.room = none ∧ ∃ printed,
      (batch.run net start).2.progress.taken = site.progress.taken ++ printed ∧
      ended.1.output = (site.progress.takeAll printed).2.taken
  files : (batch.run net start).2.files.Edits (env.LogAt site.cwd ended.2.files) ended.2.files
  /-- No artifact is the log. -/
  others : ∀ key place,
    ended.2.files.locate site.cwd (batch.artifactPath key) = .ok ⟨place, false⟩ →
    ¬env.LogAt site.cwd ended.2.files place
  reported : Reported wording ended.1 (batch.run net start).1
  delivered : ended.1.status = 0 ↔ Delivered net batch start ended.2

/-- Nothing arrives where there is neither an open descriptor nor room. -/
theorem Configured.unheard {wording : Toml.Wording} {net : Network σ} {batch : Batch}
    {site start : Site σ} {ended : Report × Site σ}
    (configured : Configured wording net env batch site start ended) (shut : isShut site.progress)
    (full : site.progress.room = some 0) (calls : site.progress.perCall ≠ some 0) :
    ended.1.output = site.progress.taken := by
  obtain ⟨-, printed, -, output⟩ := configured.shut shut
  rw [output, Sink.takeAll_eq calls, full, Sink.limit, Nat.zero_min, List.take_zero,
    Sink.accept_nil]

/-- What a run comes to, by what loading the configuration gives. -/
inductive Course (wording : Toml.Wording) (net : Network σ) (env : Environment) (site : Site σ)
    (ended : Report × Site σ) : Except Config.LoadError Config × Site σ → Prop where
  | unconfigured {e : Config.LoadError} {ready : Site σ}
      (refused : Unconfigured wording env e site ended) :
      Course wording net env site ended (.error e, ready)
  | configured {config : Config} {ready : Site σ} {http : Http.Options}
      (options : http = ⟨config.http.connectTimeoutSecs.map Duration.ofSeconds,
        config.http.followRedirects, config.http.maxRedirections⟩)
      (fetched : Configured wording net env ⟨.fixed, ⟨"."⟩, http⟩ site
        (ready.log (.configLoaded config)) ended) :
      Course wording net env site ended (.ok config, ready)

/-- What is said about an answer. -/
def outcomeOf {α : Type} (wording : Toml.Wording) : Except Failure α → Outcome
  | .ok _ => ⟨0, ""⟩
  | .error e => ⟨1, "tvfetch error: " ++ chainText (e.chain wording) ++ "\n"⟩

theorem perform_fetch (wording : Toml.Wording) (net : Network σ) (env : Environment)
    (site : Site σ) : ∃ performed,
    perform wording net env (Command.parse []) site =
        (outcomeOf wording (fetch net env site).1, performed) ∧
      Quiet (fetch net env site).2 performed ∧
      performed.files = (fetch net env site).2.files := by
  have parsed : Command.parse [] = .run := rfl
  rw [parsed, perform]
  generalize fetch net env site = result
  obtain ⟨e | written, after⟩ := result
  · exact ⟨_, rfl, .log (.refl after) _, rfl⟩
  · exact ⟨_, rfl, .refl after, rfl⟩

theorem fetch_of_error {site ready : Site σ} {e : Config.LoadError} (net : Network σ)
    (loaded : Config.load env site = (.error e, ready)) :
    fetch net env site = (.error (.config e), ready) := by
  simp only [fetch, loaded]

/-- What `fetch` does, with any way to run a batch. A run that has a name is not unfolded. -/
def fetchBy (run : Batch → Site σ → Except BatchError (List Path) × Site σ) (env : Environment)
    (site : Site σ) : Except Failure (List Path) × Site σ :=
  match Config.load env site with
  | (.error e, site) => (.error (.config e), site)
  | (.ok config, site) =>
    match run (batch config.http.options) (site.log (.configLoaded config)) with
    | (.error e, site) => (.error (.batch e), site)
    | (.ok written, site) => (.ok written, site.log (.vectorsFetched written.length))

theorem fetch_eq_fetchBy (net : Network σ) (env : Environment) (site : Site σ) :
    fetch net env site = fetchBy (Batch.run net) env site := rfl

theorem fetchBy_of_ok {run : Batch → Site σ → Except BatchError (List Path) × Site σ}
    {site ready after : Site σ} {config : Config} {answer : Except BatchError (List Path)}
    (loaded : Config.load env site = (.ok config, ready))
    (ran : run (batch config.http.options) (ready.log (.configLoaded config)) = (answer, after)) :
    ∃ last, fetchBy run env site = (answer.mapError .batch, last) ∧ Quiet after last ∧
      last.files = after.files := by
  simp only [fetchBy, loaded, ran]
  obtain e | written := answer
  · exact ⟨after, rfl, .refl after, rfl⟩
  · exact ⟨_, rfl, .log (.refl after) _, rfl⟩

theorem run_cwd (net : Network σ) (batch : Batch) (site : Site σ) :
    (batch.run net site).2.cwd = site.cwd := by
  obtain ⟨attempted, _, told⟩ := exists_told net batch site
  exact told.alike.cwd.trans (cwd_before net batch site attempted)

theorem logAt_run (net : Network σ) (batch : Batch) (site : Site σ) {place : Place}
    (log : env.LogAt site.cwd site.files place) :
    env.LogAt site.cwd (batch.run net site).2.files place := by
  obtain ⟨attempted, _, told⟩ := exists_told net batch site
  unfold Environment.LogAt
  rw [told.alike.files, locate_before net batch site attempted]
  exact log

/-- The run of a batch with the log written behind it. -/
theorem Logged.configured {wording : Toml.Wording} {net : Network σ} {batch : Batch}
    {site start after performed : Site σ} {answer : Except BatchError (List Path)}
    {ended : Report × Site σ} (quiet : Quiet (attach site) start)
    (ran : batch.run net start = (answer, after)) (performedQuiet : Quiet after performed)
    (performedFiles : performed.files = after.files)
    (logged : Logged (env.LogAt performed.cwd performed.files)
      (outcomeOf wording (answer.mapError .batch)) site.progress performed ended) :
    Configured wording net env batch site start ended := by
  have cwd : performed.cwd = site.cwd := by
    have kept := run_cwd net batch start
    rw [ran] at kept
    exact performedQuiet.cwd.trans (kept.trans quiet.cwd)
  have written := logged.files
  rw [cwd, performedFiles] at written
  have progress : ended.2.progress = (batch.run net start).2.progress := by
    rw [ran, logged.quiet.progress, performedQuiet.progress]
  have begun : start.progress = standardOutput site.progress := quiet.progress
  have output : ended.1.output = arrived site.progress (batch.run net start).2.progress := by
    rw [logged.output, ran, performedQuiet.progress]
  have files : (batch.run net start).2.files.Edits (env.LogAt site.cwd after.files)
      ended.2.files := by
    rwa [ran]
  -- The log is written last, and to a file that is none of the artifacts.
  have away : ∀ key place,
      (batch.run net start).2.files.locate start.cwd (batch.artifactPath key) =
        .ok ⟨place, false⟩ → ¬env.LogAt site.cwd after.files place := by
    rw [ran, quiet.cwd]
    exact fun key place artifact => not_logAt_of_artifact artifact
  have complete := run_isOk_iff files away progress
  have reported : Reported wording ended.1 answer := by
    obtain ⟨lines, whole, errors⟩ := logged.errors
    have status := logged.status
    obtain ⟨⟨n, bytes, text⟩, last⟩ := ended
    dsimp only at errors status
    subst errors status
    cases answer with
    | error e => exact .failure bytes ⟨lines, _, whole, causes_chain wording (.batch e), rfl⟩
    | ok paths => exact .success paths bytes _
  refine {
    quiet
    requests := by rw [ran, logged.quiet.requests, performedQuiet.requests]
    server := by rw [ran, logged.quiet.server, performedQuiet.server]
    progress
    output := fun opened => ?_
    shut := fun shut => ?_
    files := files.mono fun place log => written.locate_iff.2 log
    others := fun key place artifact => not_logAt_of_artifact artifact
    reported := by rwa [ran]
    delivered := ?_ }
  · rw [begun, standardOutput_of_open opened, output, arrived_of_open opened]
    exact ⟨rfl, rfl⟩
  · obtain ⟨_, printed, told⟩ := exists_told net batch start
    have took := told.progress
    rw [begun] at took
    refine ⟨begun ▸ room_standardOutput shut, printed, ?_, ?_⟩
    · rw [took, Sink.accept, taken_standardOutput]
    · rw [output, took, arrived_of_isShut shut]
  · rw [← complete, ran]
    exact reported.status_eq_zero_iff

section Runs

variable {wording : Toml.Wording} {net : Network σ} {site ready : Site σ}

theorem run_unconfigured {e : Config.LoadError} (time : String)
    (loaded : Config.load env (openLog env (attach site)).2 = (.error e, ready)) :
    Unconfigured wording env e site (run wording net env time [] site) := by
  have openedQuiet := openLog_quiet env (attach site)
  have loadedQuiet := openedQuiet.trans (Config.load_quiet env (openLog env (attach site)).2)
  obtain ⟨-, log⟩ := openLog_behind env (attach site)
  have behind := Config.load_behind env (openLog env (attach site)).2
  obtain ⟨performed, followed, performedQuiet, performedFiles⟩ :=
    perform_fetch wording net env (openLog env (attach site)).2
  rw [fetch_of_error net loaded] at followed performedQuiet performedFiles
  rw [loaded] at loadedQuiet behind
  -- What was opened as the log is the log still when it is written.
  have lasting : ∀ place, (openLog env (attach site)).1 = some place →
      env.LogAt performed.cwd performed.files place := by
    intro place goes
    rw [performedQuiet.cwd, performedFiles]
    exact logAt_of_behind behind (log place goes)
  have logged := (run_logged wording net env time [] site followed).mono lasting
  have spares := Config.load_spares (congrArg Prod.fst loaded)
  rw [loaded, openedQuiet.cwd] at spares
  have quiet := loadedQuiet.trans performedQuiet
  have written := logged.files
  rw [quiet.cwd, performedFiles] at written
  have opened := Spares.of_prepares (openLog_prepares env (attach site))
  obtain ⟨lines, whole, errors⟩ := logged.errors
  refine {
    status := logged.status
    output := ?_
    errors := ⟨lines, _, whole, causes_chain wording (.config e), errors⟩
    quiet := quiet.trans logged.quiet
    files := (opened.trans spares).trans (.of_prepares (.of_edits written))
    others := ?_ }
  · rw [logged.output, quiet.progress]
    exact arrived_standardOutput site.progress
  · rintro place (config | ⟨key, artifact⟩)
    · exact Environment.not_logAt_of_configAt config
    · exact not_logAt_of_artifact artifact

theorem run_configured {config : Config} (time : String)
    (loaded : Config.load env (openLog env (attach site)).2 = (.ok config, ready)) :
    Configured wording net env (batch config.http.options) site (ready.log (.configLoaded config))
      (run wording net env time [] site) := by
  have loadedQuiet :=
    (openLog_quiet env (attach site)).trans (Config.load_quiet env (openLog env (attach site)).2)
  obtain ⟨-, log⟩ := openLog_behind env (attach site)
  have behind := Config.load_behind env (openLog env (attach site)).2
  obtain ⟨performed, followed, performedQuiet, performedFiles⟩ :=
    perform_fetch wording net env (openLog env (attach site)).2
  rw [loaded] at loadedQuiet behind
  have cwd := run_cwd net (batch config.http.options) (ready.log (.configLoaded config))
  rcases ran : (batch config.http.options).run net (ready.log (.configLoaded config)) with
    ⟨answer, after⟩
  obtain ⟨last, fetched, lastQuiet, lastFiles⟩ := fetchBy_of_ok loaded ran
  rw [fetch_eq_fetchBy, fetched] at followed performedQuiet performedFiles
  -- The run of the batch leads the path of the log to where it has led before.
  have lasting : ∀ place, (openLog env (attach site)).1 = some place →
      env.LogAt performed.cwd performed.files place := by
    intro place goes
    have here := logAt_of_behind behind (log place goes)
    have located := logAt_run net (batch config.http.options)
      (ready.log (.configLoaded config)) here
    rw [ran] at cwd located
    rw [performedQuiet.cwd, performedFiles, lastQuiet.cwd, lastFiles, cwd]
    exact located
  have logged := (run_logged wording net env time [] site followed).mono lasting
  exact logged.configured (loadedQuiet.log _) ran (lastQuiet.trans performedQuiet)
    (performedFiles.trans lastFiles)

/-- Where a configuration is loaded, the list of all keys is printed, if there is room for it. -/
theorem run_heard (wording : Toml.Wording) (net : Network σ) (time : String) {config : Config}
    (loaded : Config.load env (openLog env (attach site)).2 = (.ok config, ready))
    (opened : isShut site.progress = false) (room : site.progress.room = none)
    (calls : site.progress.perCall ≠ some 0) :
    ∃ n, (run wording net env time [] site).1.output = site.progress.taken ++ transcript n := by
  have configured : Configured wording net env (batch config.http.options) site
      (ready.log (.configLoaded config)) (run wording net env time [] site) :=
    run_configured time loaded
  obtain ⟨start, output⟩ := configured.output opened
  rw [← start] at room calls
  have sequential := (run_outcome net (batch config.http.options) calls).sequential calls
    (Sink.takeAll_of_room room calls _)
  exact ⟨_, by rw [output, sequential.taken, start]⟩

/-- Where a configuration is loaded, every key is answered with a document, and nothing keeps the
files from being written or announced, the run succeeds. -/
theorem run_succeeds {config : Config} (time : String)
    (loaded : Config.load env (openLog env (attach site)).2 = (.ok config, ready))
    (writable : Ready (batch config.http.options) ready.files ready.cwd)
    (heard : (standardOutput site.progress).AcceptsAll)
    (answered : ∀ key here, ∃ body value,
      (batch config.http.options).body? net key here = some body ∧ Json.parse body = .ok value) :
    (run wording net env time [] site).1.status = 0 := by
  have configured : Configured wording net env (batch config.http.options) site
      (ready.log (.configLoaded config)) (run wording net env time [] site) :=
    run_configured time loaded
  have begun : (ready.log (.configLoaded config)).progress = standardOutput site.progress :=
    configured.quiet.progress
  rw [← begun] at heard
  exact configured.reported.status_eq_zero_iff.2
    (isOk_run_of_answered writable heard answered (utf8ByteSize_artifactPath_le _))

end Runs

/-- A run without arguments, whatever the environment, the files, the servers and the standard
output are. The log is opened first, and the configuration is loaded from what the files are
then. -/
theorem run_course (wording : Toml.Wording) (net : Network σ) (env : Environment) (time : String)
    (site : Site σ) :
    Course wording net env site (run wording net env time [] site)
      (Config.load env (openLog env (attach site)).2) := by
  rcases loaded : Config.load env (openLog env (attach site)).2 with ⟨e | config, ready⟩
  · exact .unconfigured (run_unconfigured time loaded)
  · exact .configured rfl (run_configured time loaded)

/-- Where a run leaves more behind than its answer says, or less. A directory for the log takes the
place of a configuration file that was missing, and a device without room for all of such a file
keeps its front. Of a run that succeeds nothing arrives at a descriptor that is not open for
writing. -/
theorem run_exceptions :
    let wording : Toml.Wording := fun _ => "TOML parse error"
    let net : Network Unit :=
      ⟨fun _ => none, fun _ _ => (.message 200 [] [0x31], ()), fun _ _ _ => none⟩
    let full : LastingError := ⟨.os 28, rfl⟩
    let shut : Sink := ⟨some 0, none, .failure ⟨.os 9, rfl⟩, []⟩
    let config : Place := ["c", "tvfetch", "config.toml"]
    let new : Files := ⟨[(["w"], .directory)], []⟩
    let used : Files := ⟨[(["w"], .directory), (["c"], .directory), (["c", "tvfetch"], .directory),
      (config, .file [] none), (["s"], .directory), (["s", "tvfetch"], .directory),
      (["s", "tvfetch", "tvfetch.log"], .file [] none)], []⟩
    let apart : Environment := ⟨some "/h", some "/c", some "/s", none⟩
    let above : Environment := ⟨some "/h", some "/c", some "/c/tvfetch/config.toml", none⟩
    let free : Site Unit := .start new ["w"] () .unlimited
    let tight : Site Unit := .start { new with limits := [(config, 4, full)] } ["w"] () .unlimited
    let unheard : Site Unit := .start used ["w"] () shut
    new.node? config = none ∧
      (Config.load above (openLog above (attach free)).2).1.isOk = false ∧
      (run wording net above "noon" [] free).2.files.node? config = some .directory ∧
      (Config.load apart (openLog apart (attach tight)).2).1.isOk = false ∧
      (run wording net apart "noon" [] tight).2.files.node? config =
        some (.file (Utf8.encode "[htt") (some (4, full))) ∧
      (run wording net apart "noon" [] unheard).1.status = 0 ∧
      (run wording net apart "noon" [] unheard).1.output = [] := by
  intro wording net full shut config new used apart above free tight unheard
  refine ⟨rfl, by decide +kernel, by decide +kernel, by decide +kernel, by decide +kernel, ?_⟩
  have loaded : (Config.load apart (openLog apart (attach unheard)).2).1 = .ok .default := by
    decide +kernel
  have files : (Config.load apart (openLog apart (attach unheard)).2).2.files = used := by
    decide +kernel
  rcases begun : Config.load apart (openLog apart (attach unheard)).2 with ⟨answer, ready⟩
  rw [begun] at loaded files
  obtain rfl : answer = .ok .default := loaded
  have configured : Configured wording net apart (batch Config.default.http.options) unheard
      (ready.log (.configLoaded .default)) (run wording net apart "noon" [] unheard) :=
    run_configured "noon" begun
  have cwd : ready.cwd = ["w"] := configured.quiet.cwd
  -- No file that is there has a name with the last letter of an artifact's.
  have letters : ∀ entry ∈ used.entries, entry.1.getLast?.bind (·.toList.getLast?) ≠ some 'n' := by
    decide
  have named : ∀ (key : Key) dir node, used.node? (dir ++ [key.fileName]) = some node →
      used.TakesAll (dir ++ [key.fileName]) := by
    intro key dir node there
    have last := letters _ (Files.mem_entries_of_node? (by simp) there)
    simp [key.toList_fileName] at last
  have writable : Ready (batch Config.default.http.options) ready.files ready.cwd := by
    rw [files, cwd]
    exact ready_of_takesAll (by decide +kernel) named rfl
  have hasBody : Http.HasBody Config.default.http.options 200 :=
    ⟨by decide, by decide, fun _ => by decide⟩
  have frames : Http.Frames [0x31] [] [0x31] := .close nofun
  have answered := @body?_of_frames _ net _ _ _ _ _ rfl hasBody rfl frames (fun _ => rfl)
    fun _ _ => rfl
  have document : ∃ value, Json.parse [0x31] = .ok value := ⟨_, rfl⟩
  obtain ⟨value, read⟩ := document
  exact ⟨run_succeeds "noon" begun writable ⟨rfl, by decide⟩ fun key here =>
    ⟨_, value, answered key here, read⟩, configured.unheard rfl rfl (by decide)⟩

end Program

end VectorFetch

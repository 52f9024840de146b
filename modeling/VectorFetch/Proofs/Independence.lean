import VectorFetch.Proofs.Files.Agreement
import VectorFetch.Proofs.Program

/-!
# Runs do not depend on the log

Two runs are followed side by side, from sites that agree at the places that matter.

* `Site.Agree`: sites that differ in what is stored where nobody looks, and in what was logged.
* `Site.Agree.lockstep`: a batch from the web does the same on both.
* `Config.load_agree`: so does loading the configuration, also if the directories for it are there on
  one side only.
* `Program.openLog_others`: opening the log changes nothing but the way to its file.
* `Program.LogApart`, `Program.run_independent`: two runs that differ in their logs.
-/

namespace VectorFetch

open Site Batch

variable {σ : Type} {cwd : Place} {watched : Place → Prop} {a b : Site σ}

/-! ## Sites that agree -/

/-- The same but for what is stored at places that are not watched, and for what was logged. -/
structure Site.Agree (cwd : Place) (watched : Place → Prop) (a b : Site σ) : Prop where
  here : a.cwd = cwd
  there : b.cwd = cwd
  server : a.server = b.server
  progress : a.progress = b.progress
  requests : a.requests = b.requests
  files : Files.AgreeOn watched a.files b.files

namespace Site.Agree

theorem log (agree : Agree cwd watched a b) (x y : Event) :
    Agree cwd watched (a.log x) (b.log y) :=
  { agree with }

theorem change (agree : Agree cwd watched a b) {left right : Files}
    (same : Files.AgreeOn watched left right) (effect : Effect) :
    Agree cwd watched ({ a with files := left }.record effect)
      ({ b with files := right }.record effect) where
  here := agree.here
  there := agree.there
  server := agree.server
  progress := agree.progress
  requests := by
    rw [requests_record, requests_record]
    exact congrArg (· ++ _) agree.requests
  files := same

theorem attach (agree : Agree cwd watched a b) :
    Agree cwd watched (Program.attach a) (Program.attach b) :=
  { agree with progress := congrArg Program.standardOutput agree.progress }

/-- Away from the log, what is quiet keeps sites as they are. -/
theorem of_quiet {counted : Place → Prop} {a' b' : Site σ} (agree : Agree cwd watched a b)
    (left : Quiet a a') (right : Quiet b b') (files : Files.AgreeOn counted a'.files b'.files) :
    Agree cwd counted a' b' where
  here := left.cwd.trans agree.here
  there := right.cwd.trans agree.there
  server := by rw [left.server, right.server, agree.server]
  progress := by rw [left.progress, right.progress, agree.progress]
  requests := by rw [left.requests, right.requests, agree.requests]
  files := files

theorem create (agree : Agree cwd watched a b) {path : Path}
    (located : a.files.locate cwd path = b.files.locate cwd path)
    (watches : watched (path.target cwd)) :
    InStep (Agree cwd watched) (a.create path) (b.create path) ∧
      ∀ place, (a.create path).1 = .ok place → place = path.target cwd := by
  rcases Files.openFile_agree agree.files located watches with
    ⟨e, left, right⟩ | ⟨filesA, filesB, left, right, files⟩
  · have madeA : a.files.create a.cwd path = .error e := agree.here ▸ left
    have madeB : b.files.create b.cwd path = .error e := agree.there ▸ right
    unfold Site.create
    rw [madeA, madeB]
    exact ⟨⟨rfl, agree⟩, fun _ same => by cases same⟩
  · have madeA : a.files.create a.cwd path = .ok (path.target cwd, filesA) := agree.here ▸ left
    have madeB : b.files.create b.cwd path = .ok (path.target cwd, filesB) := agree.there ▸ right
    unfold Site.create
    rw [madeA, madeB]
    exact ⟨⟨rfl, agree.change files _⟩, fun place same => (Except.ok.inj same).symm⟩

theorem store (agree : Agree cwd watched a b) {place : Place} (watches : watched place)
    (bytes : Bytes) :
    InStep (Agree cwd watched) (a.store place bytes) (b.store place bytes) := by
  obtain ⟨same, files⟩ := Files.store_agree agree.files watches bytes
  exact ⟨same, agree.change files _⟩

theorem print (agree : Agree cwd watched a b) (bytes : Bytes) :
    InStep (Agree cwd watched) (a.print bytes) (b.print bytes) := by
  have requests : (a.print bytes).2.requests = (b.print bytes).2.requests :=
    (print_alike a bytes).requests.trans
      (agree.requests.trans (print_alike b bytes).requests.symm)
  have printed : (a.print bytes).1 = (b.print bytes).1 ∧
      (a.print bytes).2.progress = (b.print bytes).2.progress := by
    unfold Site.print
    rw [agree.progress]
    exact ⟨rfl, rfl⟩
  exact ⟨printed.1, { agree with progress := printed.2, requests }⟩

theorem visit (agree : Agree cwd watched a b) (net : Network σ) (address : Http.Address) :
    Agree cwd watched (Http.visit net a address) (Http.visit net b address) where
  here := agree.here
  there := agree.there
  server := by
    simp only [Http.visit, Site.record, agree.server]
  progress := agree.progress
  requests := by rw [Http.requests_visit, Http.requests_visit, agree.requests]
  files := agree.files

theorem asked (net : Network σ) : Http.Asked net (@Agree σ cwd watched) where
  server agree := agree.server
  visited address agree := agree.visit net address
  logged event agree := agree.log event event

/-- A batch that asks the web looks at no file but its artifacts. -/
theorem lockstep (net : Network σ) {batch : Batch}
    (web : ∀ key url address, batch.source.resource key = .ok url →
      Http.Address.ofText url.text = .ok address → address.scheme ≠ "file")
    (watches : ∀ key, ∀ place ∈ (batch.artifactPath key).trail cwd, watched place) :
    Lockstep net batch (Agree cwd watched) where
  fetched key agree := by
    refine fetchOne_inStep (fun url found => ?_) (fun value agree => ?_) agree
    · exact Http.get_inStep (asked net)
        (Http.transfer_inStep (asked net) (fun address => web key url address found) agree)
    · have target := watches key _ (Path.target_mem_trail cwd)
      have located := Files.locate_congr (Files.walk_congr fun place member =>
        agree.files.nodes place (watches key place member))
      obtain ⟨made, place⟩ := agree.create located target
      exact Artifact.write_inStep made
        (fun there same _ _ bytes agree => agree.store (place there same ▸ target) bytes) value
  printed pieces agree := printAll_inStep (fun bytes agree => agree.print bytes) pieces agree
  logged event agree := agree.log event event

end Site.Agree

/-! ## Loading the configuration -/

theorem Site.makeDirectories_eq (here : a.cwd = cwd) (dir : Path) :
    a.makeDirectories dir = ((a.files.makeDirectories cwd dir).1,
      { a with files := (a.files.makeDirectories cwd dir).2 }.record (.makeDirectories dir)) := by
  subst here
  rfl

/-- What one side lacks of the way to a directory is made, on both sides or on neither, and then a
name in the directory leads to the same place. -/
theorem Site.Agree.placeFile {env env' : Environment} (sameHome : env'.home = env.home)
    (agree : Agree cwd watched a b) {dir : Path} {name : String}
    (trimmed : dir.Trimmed) (filled : dir.text ≠ "") (named : Path.IsName name)
    (currentA : a.files.node? cwd = some .directory)
    (currentB : b.files.node? cwd = some .directory)
    (near : ∀ place ∈ dir.trail cwd, Files.Near (a.files.node? place) (b.files.node? place)) :
    (∃ e e' a' b', a.placeFile env dir name = (.error e, a') ∧
        b.placeFile env' dir name = (.error e', b') ∧ Agree cwd watched a' b') ∨
      ∃ a' b', a.placeFile env dir name = (.ok (dir.join name), a') ∧
        b.placeFile env' dir name = (.ok (dir.join name), b') ∧ Agree cwd watched a' b' ∧
        a'.files.locate cwd (dir.join name) = b'.files.locate cwd (dir.join name) := by
  obtain ⟨same, joined⟩ := Files.makeDirectories_near trimmed currentA currentB near
  have made := agree.change (joined.agree agree.files) (.makeDirectories dir)
  unfold Site.placeFile
  rw [sameHome]
  split
  next => exact .inl ⟨_, _, _, _, rfl, rfl, agree⟩
  next =>
    rw [makeDirectories_eq agree.here, makeDirectories_eq agree.there]
    rcases madeA : a.files.makeDirectories cwd dir with ⟨e | _, filesA⟩
    · rcases madeB : b.files.makeDirectories cwd dir with ⟨e' | _, filesB⟩
      · rw [madeA, madeB] at made
        exact .inl ⟨_, _, _, _, rfl, rfl, made⟩
      · rw [madeA, madeB] at same
        cases same
    · rcases madeB : b.files.makeDirectories cwd dir with ⟨e' | _, filesB⟩
      · rw [madeA, madeB] at same
        cases same
      · rw [madeA, madeB] at made
        -- The path is walked in different files, but along directories that were made in both.
        have walkedA := Files.walk_join trimmed named filled currentA madeA
        have walkedB := Files.walk_join trimmed named filled currentB madeB
        exact .inr ⟨_, _, rfl, rfl, made, Files.locate_congr (walkedA.trans walkedB.symm)⟩

namespace Config

variable {env env' : Environment}

theorem create_agree {path : Path} (agree : Agree cwd watched a b)
    (located : a.files.locate cwd path = b.files.locate cwd path)
    (watches : watched (path.target cwd)) :
    InStep (Agree cwd watched) (create path a) (create path b) := by
  obtain ⟨made, placed⟩ := agree.create located watches
  obtain ⟨answer, a, b, madeA, madeB, agree⟩ := made.split
  unfold create
  rw [madeA] at placed
  rw [madeA, madeB]
  cases answer with
  | error e => exact ⟨rfl, agree⟩
  | ok place =>
    have stored := agree.store (placed place rfl ▸ watches) (Utf8.encode defaultText)
    obtain ⟨answer, a, b, storedA, storedB, agree⟩ := stored.split
    dsimp only
    rw [storedA, storedB]
    cases answer with
    | error e => exact ⟨rfl, agree⟩
    | ok => exact ⟨rfl, agree.log _ _⟩

theorem read_agree {path : Path} (agree : Agree cwd watched a b)
    (located : a.files.locate cwd path = b.files.locate cwd path)
    (watches : watched (path.target cwd)) : read path a = read path b := by
  unfold read
  rw [agree.here, agree.there, Files.read_agree agree.files located watches]

/-- The same configuration is loaded, or none on either side. -/
theorem load_agree (sameDir : env'.configDir = env.configDir) (sameHome : env'.home = env.home)
    (agree : Agree cwd watched a b)
    (watches : watched (env.configPath.target cwd))
    (currentA : a.files.node? cwd = some .directory)
    (currentB : b.files.node? cwd = some .directory)
    (near : ∀ place ∈ env.configDir.trail cwd,
      Files.Near (a.files.node? place) (b.files.node? place)) :
    (load env a).1.toOption = (load env' b).1.toOption ∧
      Agree cwd watched (load env a).2 (load env' b).2 := by
  have trimmed : env.configDir.Trimmed := Path.trimmed_join _ Path.isName_programName
  unfold load place
  rw [sameDir]
  rcases agree.placeFile sameHome trimmed env.configDir_ne Path.isName_configFile currentA currentB
    near with
    ⟨e, e', a, b, placedA, placedB, agree⟩ | ⟨a, b, placedA, placedB, agree, located⟩
  · -- The errors need not be the same, but there is one on either side.
    rw [placedA, placedB]
    exact ⟨rfl, agree⟩
  · have there : a.files.isThere a.cwd env.configPath = b.files.isThere b.cwd env.configPath := by
      rw [agree.here, agree.there]
      exact Files.isThere_agree agree.files located watches
    have config := read_agree agree located watches
    have created := create_agree agree located watches
    unfold Environment.configPath at there config created
    rw [placedA, placedB]
    dsimp only
    rw [there]
    split
    next => exact ⟨congrArg _ config, agree⟩
    next => exact ⟨congrArg _ created.answer, created.sites⟩

end Config

theorem Source.scheme_ne_file {key : Key} {url : Url} {address : Http.Address}
    (found : Source.fixed.resource key = .ok url)
    (spelled : Http.Address.ofText url.text = .ok address) : address.scheme ≠ "file" := by
  obtain ⟨url', web, found', spelled', secure⟩ := exists_address key
  obtain rfl : url = url' := Except.ok.inj (found.symm.trans found')
  obtain rfl : address = web := Except.ok.inj (spelled.symm.trans spelled')
  rw [secure]
  decide

/-! ## Following the arguments -/

namespace Program

variable {env env' : Environment}

/-- The places that decide what a run leaves behind besides its log. -/
def Counts (env : Environment) (cwd place : Place) : Prop :=
  place = env.configPath.target cwd ∨ ∃ key, place ∈ ((batch .default).artifactPath key).trail cwd

/-- What fetching needs of two sites. -/
structure Ready (env : Environment) (cwd : Place) (a b : Site σ) : Prop where
  agree : Agree cwd (Counts env cwd) a b
  left : a.files.node? cwd = some .directory
  right : b.files.node? cwd = some .directory
  near : ∀ place ∈ env.configDir.trail cwd, Files.Near (a.files.node? place) (b.files.node? place)

theorem lockstep_batch (net : Network σ) (env : Environment) (cwd : Place) (http : Http.Options) :
    Lockstep net (batch http) (Agree cwd (Counts env cwd)) :=
  Agree.lockstep net (fun _ _ _ => Source.scheme_ne_file) fun key _ member => .inr ⟨key, member⟩

theorem fetchBy_agree {run : Batch → Site σ → Except BatchError (List Path) × Site σ}
    (runs : ∀ {http a b}, Agree cwd (Counts env cwd) a b →
      InStep (Agree cwd (Counts env cwd)) (run (batch http) a) (run (batch http) b))
    (sameDir : env'.configDir = env.configDir) (sameHome : env'.home = env.home)
    (ready : Ready env cwd a b) :
    (fetchBy run env a).1.isOk = (fetchBy run env' b).1.isOk ∧
      Agree cwd (Counts env cwd) (fetchBy run env a).2 (fetchBy run env' b).2 := by
  obtain ⟨same, agree⟩ := Config.load_agree sameDir sameHome ready.agree (.inl rfl) ready.left
    ready.right ready.near
  unfold fetchBy
  -- Both sides have the same configuration, or neither has one.
  generalize Config.load env a = x at same agree ⊢
  generalize Config.load env' b = y at same agree ⊢
  obtain ⟨e | config, a⟩ := x
  · obtain ⟨e' | config', b⟩ := y
    · exact ⟨rfl, agree⟩
    · cases same
  · obtain ⟨e' | config', b⟩ := y
    · cases same
    · obtain rfl : config = config' := Option.some.inj same
      have started := agree.log (.configLoaded config) (.configLoaded config)
      obtain ⟨answer, a, b, ranA, ranB, agree⟩ := (runs started).split
      dsimp only
      rw [ranA, ranB]
      cases answer with
      | error e => exact ⟨rfl, agree⟩
      | ok written => exact ⟨rfl, agree.log _ _⟩

theorem perform_agree (wording : Toml.Wording) (net : Network σ) (command : Command)
    (sameDir : env'.configDir = env.configDir) (sameHome : env'.home = env.home)
    (ready : Ready env cwd a b) :
    (perform wording net env command a).1.status = (perform wording net env' command b).1.status ∧
      Agree cwd (Counts env cwd) (perform wording net env command a).2
        (perform wording net env' command b).2 := by
  cases command with
  | help => exact ⟨rfl, (ready.agree.print _).sites⟩
  | version => exact ⟨rfl, (ready.agree.print _).sites⟩
  | misuse misuse => exact ⟨rfl, ready.agree⟩
  | run =>
    obtain ⟨same, agree⟩ := fetchBy_agree (fun agree => (lockstep_batch net env cwd _).run agree)
      sameDir sameHome ready
    unfold perform
    rw [fetch_eq_fetchBy, fetch_eq_fetchBy]
    -- The errors may differ, but either both runs fail or none does.
    generalize fetchBy (Batch.run net) env a = x at same agree ⊢
    generalize fetchBy (Batch.run net) env' b = y at same agree ⊢
    obtain ⟨e | written, a⟩ := x
    · obtain ⟨e' | written', b⟩ := y
      · exact ⟨rfl, agree.log _ _⟩
      · cases same
    · obtain ⟨e' | written', b⟩ := y
      · cases same
      · exact ⟨rfl, agree⟩

/-! ## The log around it -/

theorem placeFile_others (env : Environment) {site : Site σ} {dir : Path} (name : String)
    (trimmed : dir.Trimmed) (current : site.files.node? site.cwd = some .directory) {place : Place}
    (away : place ∉ dir.trail site.cwd) :
    (site.placeFile env dir name).2.files.node? place = site.files.node? place := by
  have unchanged := (Files.makeDirectories_changes trimmed current place).resolve_right
    fun ⟨_, _, member⟩ => away member
  unfold Site.placeFile Site.makeDirectories
  split
  next => rfl
  next =>
    generalize site.files.makeDirectories site.cwd dir = result at unchanged ⊢
    obtain ⟨_ | _, after⟩ := result
    · exact unchanged
    · exact unchanged

/-- Opening the log changes nothing away from the path of its file. -/
theorem openLog_others (env : Environment) {site : Site σ} (here : site.cwd = cwd)
    (current : site.files.node? cwd = some .directory) {place : Place}
    (away : place ∉ env.logPath.trail cwd) :
    (openLog env site).2.files.node? place = site.files.node? place := by
  subst here
  obtain ⟨trail, -⟩ := Path.trail_join site.cwd Path.isName_logFile env.stateDir_ne
  have unchanged := placeFile_others env Log.fileName (Path.trimmed_join _ Path.isName_programName)
    current fun member => away (trail ▸ List.mem_append_left _ member)
  have cwd := placeFile_cwd env site env.stateDir Log.fileName
  have opened : (Log.openFile env false site).2.files.node? place = site.files.node? place := by
    unfold Log.openFile Log.place
    change (site.placeFile env env.stateDir Log.fileName).2.files.node? place = _ at unchanged
    generalize ready : site.placeFile env env.stateDir Log.fileName = result at unchanged cwd ⊢
    obtain ⟨(_ | _) | path, between⟩ := result
    · exact unchanged
    · exact unchanged
    · obtain rfl : path = env.logPath := placeFile_eq_ok ready
      dsimp only at cwd ⊢
      unfold Site.openForAppend
      cases opened : between.files.openForAppend between.cwd env.logPath with
      | error e => exact unchanged
      | ok made =>
        obtain ⟨log, after⟩ := made
        have target : log = env.logPath.target site.cwd := by
          rw [← cwd]
          exact Files.place_of_locate (Files.openFile_eq_ok opened).1
        -- Opening the log changes one place, to which its path leads.
        have other : place ≠ log := by
          rintro rfl
          exact away (target ▸ Path.target_mem_trail _)
        exact ((Files.openForAppend_edits opened).others place other).trans unchanged
  unfold openLog
  generalize Log.openFile env false site = result at opened ⊢
  obtain ⟨_ | ⟨path, place⟩, after⟩ := result
  · exact opened
  · exact opened

theorem openLog_eq_some (env : Environment) {site : Site σ} {place : Place}
    (opened : (openLog env site).1 = some place) : place = env.logPath.target site.cwd := by
  rw [← (openLog_quiet env site).cwd]
  exact Files.place_of_locate ((openLog_behind env site).2 place opened)

/-! ## Runs -/

/-- Where a run looks besides its log: on the way to the configuration file, and at artifacts. -/
def Looks (env : Environment) (cwd place : Place) : Prop :=
  place ∈ env.configPath.trail cwd ∨ ∃ key, place ∈ ((batch .default).artifactPath key).trail cwd

/-- Neither the configuration file nor an artifact is the log file or above it. -/
structure LogApart (env : Environment) (cwd : Place) : Prop where
  config : env.configPath.target cwd ∉ env.logPath.trail cwd
  artifact : ∀ key, ((batch .default).artifactPath key).target cwd ∉ env.logPath.trail cwd

/-- Two runs do not differ but in their logs. -/
structure SameBesidesLog (env : Environment) (cwd : Place) (x y : Report × Site σ) : Prop where
  status : x.1.status = y.1.status
  output : x.1.output = y.1.output
  progress : x.2.progress = y.2.progress
  requests : x.2.requests = y.2.requests
  server : x.2.server = y.2.server
  config : x.2.files.node? (env.configPath.target cwd) = y.2.files.node? (env.configPath.target cwd)
  artifact : ∀ key, x.2.files.node? (((batch .default).artifactPath key).target cwd) =
    y.2.files.node? (((batch .default).artifactPath key).target cwd)

theorem trail_artifactPath (cwd : Place) (http : Http.Options) (key : Key) :
    ((batch http).artifactPath key).trail cwd = [cwd, cwd, cwd ++ [key.fileName]] ∧
      ((batch http).artifactPath key).target cwd = cwd ++ [key.fileName] := by
  have parts : (⟨"."⟩ : Path).parts = ["."] := Path.parts_of_here rfl
  have start : (⟨"."⟩ : Path).start cwd = cwd := by
    have relative : (⟨"."⟩ : Path).isAbsolute = false := by
      rw [Bool.eq_false_iff, Ne, Path.isAbsolute_iff]
      simp
    rw [Path.start, relative, if_neg Bool.false_ne_true]
  have stays : Place.after cwd "." = cwd := if_pos rfl
  have filled : (⟨"."⟩ : Path).text ≠ "" := by decide
  obtain ⟨trail, target⟩ := Path.trail_join cwd key.isName_fileName filled
  rw [batch, Batch.artifactPath, trail, target, Path.trail, Path.target, parts, start]
  simp [stays]

theorem LogApart.away (apart' : LogApart env' cwd) (sameDir : env'.configDir = env.configDir) :
    env.configPath.target cwd ∉ env'.logPath.trail cwd := by
  have config := apart'.config
  rwa [Environment.configPath, sameDir] at config

theorem eq_of_mem_trail_artifactPath {http : Http.Options} {key : Key} {place : Place}
    (member : place ∈ ((batch http).artifactPath key).trail cwd) :
    place = cwd ∨ place = ((batch http).artifactPath key).target cwd := by
  obtain ⟨trail, target⟩ := trail_artifactPath cwd http key
  rw [trail] at member
  rw [target]
  simpa using member

section

variable (sameDir : env'.configDir = env.configDir) (apart : LogApart env cwd)
  (apart' : LogApart env' cwd) (below : env.logPath.target cwd ∉ env.configPath.trail cwd)
  (below' : env'.logPath.target cwd ∉ env.configPath.trail cwd)

include apart apart' below below' in
/-- Files that differ in what stands where the log files are agree wherever else a run looks. -/
theorem agreeOn_looks {left right : Files} (currentL : left.node? cwd = some .directory)
    (currentR : right.node? cwd = some .directory) (limits : left.limits = right.limits)
    (others : ∀ place, place ≠ env.logPath.target cwd → place ≠ env'.logPath.target cwd →
      left.node? place = right.node? place) : Files.AgreeOn (Looks env cwd) left right := by
  refine ⟨fun place looked => ?_, fun place _ => by rw [Files.capacityAt, limits, Files.capacityAt]⟩
  obtain onWay | ⟨key, member⟩ := looked
  · apply others
    · rintro rfl
      exact below onWay
    · rintro rfl
      exact below' onWay
  · -- On the way to an artifact there is only the current directory before the file itself.
    rcases eq_of_mem_trail_artifactPath member with here | here
    · rw [here, currentL, currentR]
    · have away := apart.artifact key
      have away' := apart'.artifact key
      rw [← here] at away away'
      apply others
      · rintro rfl
        exact away (Path.target_mem_trail cwd)
      · rintro rfl
        exact away' (Path.target_mem_trail cwd)

variable (agree : Agree cwd (Looks env cwd) a b) (current : a.files.node? cwd = some .directory)

include sameDir apart apart' below below' agree current in
theorem ready_openLog : Ready env cwd (openLog env a).2 (openLog env' b).2 := by
  have right : b.files.node? cwd = some .directory := by
    have onWay : cwd ∈ ((batch .default).artifactPath (.ofNat 0)).trail cwd := by
      rw [(trail_artifactPath cwd .default (.ofNat 0)).1]
      exact List.mem_cons_self
    rw [← agree.files.nodes cwd (.inr ⟨_, onWay⟩)]
    exact current
  have madeA := openLog_prepares env a
  have madeB := openLog_prepares env' b
  rw [agree.here] at madeA
  rw [agree.there] at madeB
  have stillA := madeA.directories cwd current
  have stillB := madeB.directories cwd right
  refine ⟨agree.of_quiet (openLog_quiet env a) (openLog_quiet env' b) ⟨?_, ?_⟩, stillA, stillB, ?_⟩
  · -- What is looked at later is as it was, since no log lies on the way to it.
    rintro place (rfl | ⟨key, member⟩)
    · have watched := agree.files.nodes _ (.inl (Path.target_mem_trail cwd))
      exact (openLog_others env agree.here current apart.config).trans
        (watched.trans (openLog_others env' agree.there right (apart'.away sameDir)).symm)
    · have watched := agree.files.nodes place (.inr ⟨key, member⟩)
      rcases eq_of_mem_trail_artifactPath member with here | here
      · rw [here, stillA, stillB]
      · have away := apart.artifact key
        have away' := apart'.artifact key
        rw [← here] at away away'
        exact (openLog_others env agree.here current away).trans
          (watched.trans (openLog_others env' agree.there right away').symm)
  · intro place counts
    have watched : Looks env cwd place := by
      obtain rfl | artifact := counts
      · exact .inl (Path.target_mem_trail cwd)
      · exact .inr artifact
    rw [madeA.capacityAt_eq, madeB.capacityAt_eq, agree.files.capacities place watched]
  · -- On the way to the configuration nothing but directories may be new.
    intro place member
    obtain ⟨trail, -⟩ := Path.trail_join cwd Path.isName_configFile env.configDir_ne
    have onWay : place ∈ env.configPath.trail cwd := trail ▸ List.mem_append_left _ member
    refine .of_made (madeA.others place fun log => ?_)
      (agree.files.nodes place (.inl onWay) ▸ madeB.others place fun log => ?_)
    · exact below (Files.place_of_locate log ▸ onWay)
    · exact below' (Files.place_of_locate log ▸ onWay)

end

/-- Runs whose environments and files differ in what the log needs do not differ but in their logs.
The filter and the directory of the log may be any, anything may stand where the log file is looked
for, and the log file may open in one run and not in the other. -/
theorem run_independent (wording : Toml.Wording) (net : Network σ) (time time' : String)
    (arguments : List String) (sameDir : env'.configDir = env.configDir)
    (sameHome : env'.home = env.home) (agree : Agree cwd (Looks env cwd) a b)
    (current : a.files.node? cwd = some .directory)
    (apart : LogApart env cwd) (apart' : LogApart env' cwd)
    (below : env.logPath.target cwd ∉ env.configPath.trail cwd)
    (below' : env'.logPath.target cwd ∉ env.configPath.trail cwd) :
    SameBesidesLog env cwd (run wording net env time arguments a)
      (run wording net env' time' arguments b) := by
  have ready := ready_openLog sameDir apart apart' below below' agree.attach current
  obtain ⟨status, performed⟩ :=
    perform_agree wording net (Command.parse arguments) sameDir sameHome ready
  rcases followedA : perform wording net env (Command.parse arguments) (openLog env (attach a)).2
    with ⟨outcome, lastA⟩
  rcases followedB : perform wording net env' (Command.parse arguments) (openLog env' (attach b)).2
    with ⟨outcome', lastB⟩
  rw [followedA, followedB] at status performed
  have loggedA := run_logged wording net env time arguments a followedA
  have loggedB := run_logged wording net env' time' arguments b followedB
  -- Behind that only the log files are written, and they are none of the files that count.
  have files : ∀ place, Counts env cwd place → place ∉ env.logPath.trail cwd →
      place ∉ env'.logPath.trail cwd →
      (run wording net env time arguments a).2.files.node? place =
        (run wording net env' time' arguments b).2.files.node? place := by
    intro place counts awayA awayB
    rw [loggedA.files.others place, loggedB.files.others place, performed.files.nodes place counts]
    · intro opened
      rw [openLog_eq_some env' opened, agree.attach.there] at awayB
      exact awayB (Path.target_mem_trail cwd)
    · intro opened
      rw [openLog_eq_some env opened, agree.attach.here] at awayA
      exact awayA (Path.target_mem_trail cwd)
  exact {
    status := by rw [loggedA.status, loggedB.status, status]
    output := by rw [loggedA.output, loggedB.output, performed.progress, agree.progress]
    progress := by rw [loggedA.quiet.progress, loggedB.quiet.progress, performed.progress]
    requests := by rw [loggedA.quiet.requests, loggedB.quiet.requests, performed.requests]
    server := by rw [loggedA.quiet.server, loggedB.quiet.server, performed.server]
    config := files _ (.inl rfl) apart.config (apart'.away sameDir)
    artifact := fun key => files _ (.inr ⟨key, Path.target_mem_trail cwd⟩) (apart.artifact key)
      (apart'.artifact key) }

/-- In one run the log file opens, and in the other a directory stands in its place. -/
theorem run_independent_of_blocked_log :
    let wording : Toml.Wording := fun _ => "TOML parse error"
    let net : Network Nat := ⟨fun _ => none, fun n _ => (.message 404 [] [], n), fun _ _ _ => none⟩
    let env : Environment := ⟨some "/h", none, some "/s", none⟩
    let env' : Environment := ⟨some "/h", none, some "/s", some "="⟩
    let free : Files := ⟨[(["h"], .directory), (["w"], .directory), (["s"], .directory),
      (["s", "tvfetch"], .directory)], []⟩
    let blocked : Files := free.set ["s", "tvfetch", "tvfetch.log"] .directory
    let a : Site Nat := .start free ["w"] 0 ⟨none, none, .silence, []⟩
    let b : Site Nat := .start blocked ["w"] 0 ⟨none, none, .silence, []⟩
    env'.configDir = env.configDir ∧ env'.home = env.home ∧ Agree ["w"] (Looks env ["w"]) a b ∧
      a.files.node? ["w"] = some .directory ∧ LogApart env ["w"] ∧ LogApart env' ["w"] ∧
      env.logPath.target ["w"] ∉ env.configPath.trail ["w"] ∧
      (openLog env (attach a)).1 ≠ none ∧ (openLog env' (attach b)).1 = none ∧
      SameBesidesLog env ["w"] (run wording net env "noon" [] a)
        (run wording net env' "night" [] b) := by
  intro wording net env env' free blocked a b
  have trail : env.logPath.trail ["w"] =
      [[], ["s"], ["s", "tvfetch"], ["s", "tvfetch", "tvfetch.log"]] := by decide +kernel
  have target : env.logPath.target ["w"] = ["s", "tvfetch", "tvfetch.log"] := by decide +kernel
  have apart : LogApart env ["w"] := by
    refine ⟨by decide +kernel, fun key => ?_⟩
    rw [trail, (trail_artifactPath ["w"] .default key).2]
    simp
  have apart' : LogApart env' ["w"] := ⟨apart.config, apart.artifact⟩
  have below : env.logPath.target ["w"] ∉ env.configPath.trail ["w"] := by decide +kernel
  -- The two sites differ in one place, at which the second one has a directory.
  have looks : Files.AgreeOn (Looks env ["w"]) free blocked := by
    refine agreeOn_looks apart apart' below below (by decide) (by decide) rfl
      fun place other _ => ?_
    rw [target] at other
    exact (Files.node?_set_of_ne other free .directory).symm
  have agree : Agree ["w"] (Looks env ["w"]) a b := ⟨rfl, rfl, rfl, rfl, rfl, looks⟩
  exact ⟨rfl, rfl, agree, by decide, apart, apart', below, by decide +kernel, by decide +kernel,
    run_independent wording net "noon" "night" [] rfl rfl agree (by decide) apart apart' below
      below⟩

/-- A log file on the way to the configuration file keeps its directory from being made: with the log
file the run prints nothing, and without it the list of all keys. So the log file may not be there,
although none of the other files is above it. -/
theorem run_dependent_of_log_above_config :
    let wording : Toml.Wording := fun _ => "TOML parse error"
    let net : Network Nat := ⟨fun _ => none, fun n _ => (.message 404 [] [], n), fun _ _ _ => none⟩
    let env : Environment := ⟨some "/h", some "/a/tvfetch/tvfetch.log", some "/a", none⟩
    let env' : Environment := ⟨some "/h", some "/a/tvfetch/tvfetch.log", some "/b", none⟩
    let site : Site Nat := .start ⟨[(["b"], .file [] none), (["w"], .directory)], []⟩ ["w"] 0
      ⟨none, none, .silence, []⟩
    env'.configDir = env.configDir ∧ env'.home = env.home ∧
      site.files.node? ["w"] = some .directory ∧
      LogApart env ["w"] ∧ LogApart env' ["w"] ∧
      (openLog env (attach site)).1 ≠ none ∧ (openLog env' (attach site)).1 = none ∧
      ¬SameBesidesLog env ["w"] (run wording net env "noon" [] site)
        (run wording net env' "noon" [] site) := by
  intro wording net env env' site
  have apart : LogApart env ["w"] := by
    refine ⟨by decide +kernel, fun key => ?_⟩
    have trail : env.logPath.trail ["w"] =
        [[], ["a"], ["a", "tvfetch"], ["a", "tvfetch", "tvfetch.log"]] := by decide +kernel
    rw [trail, (trail_artifactPath ["w"] .default key).2]
    simp
  have apart' : LogApart env' ["w"] := by
    refine ⟨by decide +kernel, fun key => ?_⟩
    have trail : env'.logPath.trail ["w"] =
        [[], ["b"], ["b", "tvfetch"], ["b", "tvfetch", "tvfetch.log"]] := by decide +kernel
    rw [trail, (trail_artifactPath ["w"] .default key).2]
    simp
  refine ⟨rfl, rfl, by decide, apart, apart', by decide +kernel, by decide +kernel, fun same => ?_⟩
  -- The first log takes the place in which the directory of the configuration would be made.
  have refused : (Config.load env (openLog env (attach site)).2).1.isOk = false := by decide +kernel
  have loaded : (Config.load env' (openLog env' (attach site)).2).1.isOk = true := by decide +kernel
  rcases loadedA : Config.load env (openLog env (attach site)).2 with ⟨e | config, readyA⟩
  · rcases loadedB : Config.load env' (openLog env' (attach site)).2 with ⟨e' | config, readyB⟩
    · rw [loadedB] at loaded
      cases loaded
    · have unconfigured : Unconfigured wording env e site (run wording net env "noon" [] site) :=
        run_unconfigured "noon" loadedA
      obtain ⟨n, heard⟩ := run_heard wording net "noon" loadedB rfl rfl (by decide)
      rw [← same.output, unconfigured.output] at heard
      exact transcript_ne_nil n (List.self_eq_append_right.1 heard)
  · rw [loadedA] at refused
    cases refused

end Program

end VectorFetch

import VectorFetch.Proofs.Growth

/-!
# What is done before anything is fetched

* `Site.Quiet`: nothing was asked or printed. What is done for the log and for the configuration is
  quiet.
* `Prepares`: no file but the log was touched. `Spares`: nor was anything that had been there, but a
  configuration file may have been begun.
* `Program.openLog_prepares`, `Config.load_spares`: the log is opened, and no configuration is loaded.
-/

namespace VectorFetch

open Site

variable {σ : Type} {env : Environment} {cwd : Place}

/-! ## Quiet work -/

/-- Nothing was asked or printed, and the working directory is the same. -/
structure Site.Quiet (before after : Site σ) : Prop where
  cwd : after.cwd = before.cwd
  server : after.server = before.server
  progress : after.progress = before.progress
  requests : after.requests = before.requests

namespace Site.Quiet

variable {a b c : Site σ}

theorem refl (site : Site σ) : Quiet site site := ⟨rfl, rfl, rfl, rfl⟩

theorem trans (first : Quiet a b) (second : Quiet b c) : Quiet a c where
  cwd := second.cwd.trans first.cwd
  server := second.server.trans first.server
  progress := second.progress.trans first.progress
  requests := second.requests.trans first.requests

theorem log (quiet : Quiet a b) (event : Event) : Quiet a (b.log event) :=
  ⟨quiet.cwd, quiet.server, quiet.progress, quiet.requests⟩

theorem record (site : Site σ) (files : Files) {effect : Effect} (none : effect.request? = none) :
    Quiet site ({ site with files }.record effect) where
  cwd := rfl
  server := rfl
  progress := rfl
  requests := by
    rw [requests_record, none]
    exact List.append_nil _

theorem placeFile (env : Environment) (site : Site σ) (dir : Path) (name : String) :
    Quiet site (site.placeFile env dir name).2 := by
  have made : Quiet site (site.makeDirectories dir).2 := record site _ rfl
  unfold Site.placeFile
  split
  next => exact .refl site
  next =>
    generalize site.makeDirectories dir = result at made ⊢
    obtain ⟨_ | _, after⟩ := result
    · exact made
    · exact made

theorem openForAppend (site : Site σ) (path : Path) :
    Quiet site (site.openForAppend path).2 := by
  unfold Site.openForAppend
  split
  next => exact .refl site
  next => exact record site _ rfl

theorem create (site : Site σ) (path : Path) : Quiet site (site.create path).2 := by
  unfold Site.create
  split
  next => exact .refl site
  next => exact record site _ rfl

theorem store (site : Site σ) (place : Place) (bytes : Bytes) :
    Quiet site (site.store place bytes).2 := record site _ rfl

end Site.Quiet

theorem Log.openFile_quiet (env : Environment) (running : Bool) (site : Site σ) :
    Quiet site (openFile env running site).2 := by
  have placed := Quiet.placeFile env site env.stateDir fileName
  unfold openFile place
  generalize site.placeFile env env.stateDir fileName = result at placed ⊢
  obtain ⟨(_ | _) | path, ready⟩ := result
  · exact placed
  · exact placed
  · have opened := placed.trans (.openForAppend ready path)
    dsimp only
    generalize ready.openForAppend path = result at opened ⊢
    obtain ⟨_ | place, after⟩ := result
    · exact opened
    · cases running with
      | true => exact opened
      | false => exact opened

theorem Config.create_quiet (path : Path) (site : Site σ) : Quiet site (create path site).2 := by
  have made := Quiet.create site path
  unfold create
  generalize site.create path = result at made ⊢
  obtain ⟨_ | place, opened⟩ := result
  · exact made
  · have stored := made.trans (.store opened place (Utf8.encode defaultText))
    dsimp only
    generalize opened.store place (Utf8.encode defaultText) = result at stored ⊢
    obtain ⟨_ | _, after⟩ := result
    · exact stored
    · exact stored.log _

theorem Config.load_quiet (env : Environment) (site : Site σ) : Quiet site (load env site).2 := by
  have placed := Quiet.placeFile env site env.configDir fileName
  unfold load place
  generalize site.placeFile env env.configDir fileName = result at placed ⊢
  obtain ⟨_ | path, ready⟩ := result
  · exact placed
  · dsimp only
    split
    next => exact placed
    next => exact placed.trans (create_quiet path ready)

theorem Program.writeLog_quiet (place : Place) (lines : List String) (site : Site σ) :
    Quiet site (writeLog place lines site) := by
  induction lines generalizing site with
  | nil => exact .refl site
  | cons line lines ih => exact .trans (.store site place _) (ih _)

theorem Program.openLog_quiet (env : Environment) (site : Site σ) :
    Quiet site (openLog env site).2 := by
  have opened := Log.openFile_quiet env false site
  unfold openLog
  generalize Log.openFile env false site = result at opened ⊢
  obtain ⟨_ | ⟨path, place⟩, after⟩ := result
  · exact opened.log _
  · exact opened.log _

/-! ## The log among the files -/

/-- What is stored below the root has an entry. -/
theorem Files.mem_entries_of_node? {files : Files} {place : Place} {node : Node}
    (below : place ≠ []) (there : files.node? place = some node) : (place, node) ∈ files.entries := by
  rw [node?, if_neg below] at there
  obtain ⟨entry, found, rfl⟩ := Option.map_eq_some_iff.1 there
  obtain rfl : entry.1 = place := by simpa using List.find?_some found
  exact List.mem_of_find?_eq_some found

theorem Files.openForAppend_edits {files after : Files} {cwd place : Place} {path : Path}
    (opened : files.openForAppend cwd path = .ok (place, after)) : Edits (· = place) files after := by
  cases (openFile_eq_ok opened).2 with
  | kept => exact .refl _ files
  | device => exact .refl _ files
  | new free => exact .set (by simp [free]) (free ▸ .new [])

/-- No file but the log was made, changed or removed. At most there are new directories. -/
structure Prepares (env : Environment) (cwd : Place) (before after : Files) : Prop where
  directories : ∀ place, before.node? place = some .directory →
    after.node? place = some .directory
  others : ∀ place, ¬env.LogAt cwd after place → after.node? place = before.node? place ∨
    before.node? place = none ∧ after.node? place = some .directory
  limits : after.limits = before.limits

namespace Prepares

variable {a b c : Files}

theorem trans (first : Prepares env cwd a b) (second : Prepares env cwd b c) :
    Prepares env cwd a c where
  directories place there := second.directories place (first.directories place there)
  others place away := by
    -- What was the log stays the log, because directories stay.
    have before : ¬env.LogAt cwd b place := fun log =>
      away (Files.locate_of_directories second.directories log)
    rcases second.others place away with same | ⟨none, new⟩
    · rw [same]
      exact first.others place before
    · rcases first.others place before with same | ⟨-, made⟩
      · exact .inr ⟨same ▸ none, new⟩
      · rw [none] at made
        cases made
  limits := second.limits.trans first.limits

theorem of_adds {path : Path} (adds : Files.Adds cwd path a b) : Prepares env cwd a b where
  directories _ := adds.directory
  others place _ := (adds.nodes place).imp_right fun ⟨free, new, _⟩ => ⟨free, new⟩
  limits := adds.limits

theorem of_edits (edits : a.Edits (env.LogAt cwd a) b) : Prepares env cwd a b where
  directories place := (edits.rewrites place).directory_iff.2
  others place away := .inl (edits.others place fun log => away (edits.locate_iff.2 log))
  limits := edits.limits

theorem capacityAt_eq (prepares : Prepares env cwd a b) (place : Place) :
    b.capacityAt place = a.capacityAt place := by
  unfold Files.capacityAt
  rw [prepares.limits]

end Prepares

/-- What loading may make of a place where it gives no configuration. A configuration file that was
missing may be there now, if not all of its text could be written. -/
inductive Leftover (env : Environment) (cwd : Place) (files : Files) (place : Place) :
    Option Node → Option Node → Prop where
  | same (node : Option Node) : Leftover env cwd files place node node
  | directory : Leftover env cwd files place none (some .directory)
  | cut (here : env.ConfigAt cwd files place) {content : Bytes}
      (front : content <+: Utf8.encode Config.defaultText)
      (short : content ≠ Utf8.encode Config.defaultText) (capacity : Capacity) :
      Leftover env cwd files place none (some (.file content capacity))

/-- Nothing that was there was changed or removed but the log. At most there are new directories
and the front of a configuration file. -/
structure Spares (env : Environment) (cwd : Place) (before after : Files) : Prop where
  directories : ∀ place, before.node? place = some .directory →
    after.node? place = some .directory
  others : ∀ place, ¬env.LogAt cwd after place →
    Leftover env cwd after place (before.node? place) (after.node? place)

namespace Spares

variable {a b c : Files}

theorem of_prepares (prepares : Prepares env cwd a b) : Spares env cwd a b where
  directories := prepares.directories
  others place away := by
    rcases prepares.others place away with same | ⟨free, new⟩
    · rw [same]
      exact .same _
    · rw [free, new]
      exact .directory

theorem trans (first : Spares env cwd a b) (second : Spares env cwd b c) : Spares env cwd a c where
  directories place there := second.directories place (first.directories place there)
  others place away := by
    have still : ∀ {path spot}, b.locate cwd path = .ok spot → c.locate cwd path = .ok spot :=
      Files.locate_of_directories second.directories
    have early := first.others place fun log => away (still log)
    have late := second.others place away
    generalize a.node? place = before at early ⊢
    generalize b.node? place = between at early late
    generalize c.node? place = after at late ⊢
    cases early with
    | same => exact late
    | directory =>
      cases late with
      | same => exact .directory
    | cut here front short capacity =>
      cases late with
      | same => exact .cut (still here) front short capacity

end Spares

namespace Program

theorem openLog_behind (env : Environment) (site : Site σ) :
    Behind env site (openLog env site).2 ∧ ∀ place, (openLog env site).1 = some place →
      env.LogAt (openLog env site).2.cwd (openLog env site).2.files place := by
  obtain ⟨behind, here⟩ := Log.openFile_behind env false site
  unfold openLog
  generalize Log.openFile env false site = result at behind here ⊢
  obtain ⟨_ | ⟨path, place⟩, after⟩ := result
  · exact ⟨behind.log _, nofun⟩
  · refine ⟨behind.log _, fun other same => ?_⟩
    cases same
    exact here path place rfl

theorem openLog_prepares (env : Environment) (site : Site σ) :
    Prepares env site.cwd site.files (openLog env site).2.files := by
  have adds := placeFile_adds env site env.stateDir Log.fileName
  have cwd := placeFile_cwd env site env.stateDir Log.fileName
  have opened : Prepares env site.cwd site.files (Log.openFile env false site).2.files := by
    unfold Log.openFile Log.place
    generalize ready : site.placeFile env env.stateDir Log.fileName = result at adds cwd ⊢
    obtain ⟨(_ | _) | path, between⟩ := result
    · exact .of_adds adds
    · exact .of_adds adds
    · obtain rfl : path = env.logPath := placeFile_eq_ok ready
      dsimp only at cwd ⊢
      unfold Site.openForAppend
      cases opened : between.files.openForAppend between.cwd env.logPath with
      | error e => exact .of_adds adds
      | ok made =>
        obtain ⟨place, after⟩ := made
        have located := (Files.openFile_eq_ok opened).1
        rw [cwd] at located
        -- First directories were added for the log, and then its file was opened.
        refine .trans (.of_adds adds) (.of_edits ((Files.openForAppend_edits opened).mono ?_))
        rintro _ rfl
        exact located
  unfold openLog
  generalize Log.openFile env false site = result at opened ⊢
  obtain ⟨_ | ⟨path, place⟩, after⟩ := result
  · exact opened
  · exact opened

theorem writeLog_edits (place : Place) (lines : List String) (site : Site σ) :
    site.files.Edits (· = place) (writeLog place lines site).files := by
  induction lines generalizing site with
  | nil => exact .refl _ site.files
  | cons line lines ih =>
    exact .trans (Files.store_edits site.files place (Utf8.encode line)) (ih (site.store place _).2)

end Program

theorem Config.MadeAt.spares {site : Site σ} {place : Place} {content : Bytes} {e : LoadError}
    {ended : Except LoadError Config × Site σ}
    (made : MadeAt env.configPath place content site ended)
    (failed : ended.1 = .error e) : Spares env site.cwd site.files ended.2.files where
  directories other := (made.edits.rewrites other).directory_iff.2
  others other _ := by
    by_cases here : other = place
    · subst here
      rw [made.free, made.holds]
      exact .cut (made.edits.locate_iff.2 made.located) made.front (made.fails e failed) _
    · rw [made.edits.others other here]
      exact .same _

/-- A configuration that is not accepted leaves nothing behind but directories and, where it is new
and was cut off, its file. -/
theorem Config.load_spares {site : Site σ} {e : LoadError} (failed : (load env site).1 = .error e) :
    Spares env site.cwd site.files (load env site).2.files := by
  have prepares : Prepares env site.cwd site.files _ :=
    .of_adds (placeFile_adds env site env.configDir fileName)
  have spares := Spares.of_prepares prepares
  have cwd := placeFile_cwd env site env.configDir fileName
  unfold load place at failed ⊢
  generalize ready : site.placeFile env env.configDir fileName = result at spares cwd failed ⊢
  obtain ⟨_ | path, between⟩ := result
  · exact spares
  · obtain rfl : path = env.configPath := placeFile_eq_ok ready
    dsimp only at spares cwd failed ⊢
    by_cases there : between.files.isThere between.cwd env.configPath
    · rwa [if_pos there]
    · rw [if_neg there] at failed ⊢
      cases created : between.files.create between.cwd env.configPath with
      | error e => simpa only [create, Site.create, created] using spares
      | ok made =>
        obtain ⟨content, made⟩ := create_of_missing (by simpa using there) created
        exact spares.trans (cwd ▸ made.spares failed)

end VectorFetch

import VectorFetch.Config.File
import VectorFetch.Log.Output
import VectorFetch.Program
import VectorFetch.Proofs.Config.RoundTrip
import VectorFetch.Proofs.Files.Directories
import VectorFetch.Proofs.Files.Edits

/-!
# Growing files

* `Growth`, `Grows`: what calls for the configuration and the log may make of files: directories on
  the way, the two files, and text behind the end of the log.
* `Site.Behind`: a site whose files have grown.
* `Log.openFile_behind`, `Config.load_behind`: what one call does.
* `Config.load_of_isThere`, `Config.load_of_isCreatable`: the configuration file is read, or it is
  made. Without a home directory there is none (`Config.load_of_homeless`).
-/

namespace VectorFetch

/-! ## What may become of files -/

namespace Environment

variable (env : Environment) (cwd : Place) (files : Files)

def configPath : Path := env.configDir.join Config.fileName

def logPath : Path := env.stateDir.join Log.fileName

/-- A place at which the configuration file stands, or would stand. -/
def ConfigAt (place : Place) : Prop := files.locate cwd env.configPath = .ok ⟨place, false⟩

/-- A place at which the log file stands, or would stand. -/
def LogAt (place : Place) : Prop := files.locate cwd env.logPath = .ok ⟨place, false⟩

end Environment

/-- What calls may make of a place. A new configuration file lacks the end of the default text where
there is no room for it. -/
inductive Growth (env : Environment) (cwd : Place) (files : Files) (place : Place) :
    Option Node → Option Node → Prop where
  | same (node : Option Node) : Growth env cwd files place node node
  | directory (way : files.OnWay cwd env.configDir place ∨ files.OnWay cwd env.stateDir place) :
      Growth env cwd files place none (some .directory)
  | config (here : env.ConfigAt cwd files place) {content : Bytes}
      (front : content <+: Utf8.encode Config.defaultText) (capacity : Capacity) :
      Growth env cwd files place none (some (.file content capacity))
  | log (here : env.LogAt cwd files place) (content : Bytes) (capacity : Capacity) :
      Growth env cwd files place none (some (.file content capacity))
  | appended (here : env.LogAt cwd files place) (content more : Bytes) (capacity : Capacity) :
      Growth env cwd files place (some (.file content capacity))
        (some (.file (content ++ more) capacity))

/-- Missing directories, the configuration file and the log were added, and nothing that was there
has changed except that text was written behind the log. -/
def Grows (env : Environment) (cwd : Place) (before after : Files) : Prop :=
  ∀ place, Growth env cwd after place (before.node? place) (after.node? place)

variable {env : Environment} {cwd : Place}

theorem Path.isName_configFile : Path.IsName Config.fileName where
  slashless := by decide
  notEmpty := by decide
  notHere := by decide
  notAbove := by decide

theorem Path.isName_programName : Path.IsName Environment.programName where
  slashless := by decide
  notEmpty := by decide
  notHere := by decide
  notAbove := by decide

theorem Path.isName_logFile : Path.IsName Log.fileName where
  slashless := by decide
  notEmpty := by decide
  notHere := by decide
  notAbove := by decide

theorem Path.join_ne (base : Path) {name : String} (filled : name ≠ "") :
    (base.join name).text ≠ "" := by
  unfold join
  split
  next => exact filled
  next =>
    split
    next => simp [filled]
    next => simp [filled]

theorem Environment.configDir_ne (env : Environment) : env.configDir.text ≠ "" :=
  Path.join_ne _ (by decide)

theorem Environment.stateDir_ne (env : Environment) : env.stateDir.text ≠ "" :=
  Path.join_ne _ (by decide)

theorem Environment.isThere_configPath_iff {files : Files} :
    files.isThere cwd env.configPath ↔
      ∃ place, env.ConfigAt cwd files place ∧ files.node? place ≠ none := by
  unfold Files.isThere ConfigAt
  cases located : files.locate cwd env.configPath with
  | error e => simp
  | ok spot =>
    -- The path does not end in a slash, so that a file is as good as a directory.
    obtain ⟨dir, rfl⟩ := Files.locate_join_eq Path.isName_configFile located
    cases there : files.node? (dir ++ [Config.fileName]) with
    | none => simp [there]
    | some node =>
      cases node with
      | directory | file | discard => simp [there]

/-- The two files have different names. -/
theorem Environment.not_logAt_of_configAt {files : Files} {place : Place}
    (config : env.ConfigAt cwd files place) : ¬env.LogAt cwd files place := by
  intro log
  obtain ⟨dir, here⟩ := Files.locate_join Path.isName_configFile config
  obtain ⟨dir', here'⟩ := Files.locate_join Path.isName_logFile log
  have names := List.append_inj_right' (here.symm.trans here') rfl
  exact absurd (List.singleton_inj.1 names) (by decide)

theorem Growth.mono {a b : Files} {place : Place} {before after : Option Node}
    (growth : Growth env cwd a place before after)
    (located : ∀ path spot, a.locate cwd path = .ok spot → b.locate cwd path = .ok spot) :
    Growth env cwd b place before after := by
  have way : ∀ path, a.OnWay cwd path place → b.OnWay cwd path place :=
    fun _ ⟨above, spot, behind, leads, here⟩ =>
      ⟨above, spot, behind, located above spot leads, here⟩
  cases growth with
  | same => exact .same _
  | directory onWay => exact .directory (onWay.imp (way _) (way _))
  | config here front capacity => exact .config (located _ _ here) front capacity
  | log here content capacity => exact .log (located _ _ here) content capacity
  | appended here content more capacity => exact .appended (located _ _ here) content more capacity

theorem Growth.trans {files : Files} {place : Place} {a b c : Option Node}
    (first : Growth env cwd files place a b) (second : Growth env cwd files place b c) :
    Growth env cwd files place a c := by
  cases first with
  | same => exact second
  | directory way =>
    cases second with
    | same => exact .directory way
  | config here front capacity =>
    -- Text is written behind the log alone, and the log has another name.
    cases second with
    | same => exact .config here front capacity
    | appended log => exact absurd log (Environment.not_logAt_of_configAt here)
  | log here content capacity =>
    cases second with
    | same => exact .log here content capacity
    | appended _ _ more => exact .log here (content ++ more) capacity
  | appended here content more capacity =>
    cases second with
    | same => exact .appended here content more capacity
    | appended _ _ further =>
      rw [List.append_assoc]
      exact .appended here content (more ++ further) capacity

namespace Grows

variable {a b c : Files}

theorem refl (env : Environment) (cwd : Place) (files : Files) : Grows env cwd files files :=
  fun _ => .same _

theorem locate (grows : Grows env cwd a b) {path : Path} {spot : Files.Spot}
    (located : a.locate cwd path = .ok spot) : b.locate cwd path = .ok spot := by
  -- Paths lead over directories, and those stay.
  refine Files.locate_of_directories (fun place there => ?_) located
  have growth := grows place
  rw [there] at growth
  generalize b.node? place = node at growth ⊢
  cases growth with
  | same => rfl

theorem trans (first : Grows env cwd a b) (second : Grows env cwd b c) : Grows env cwd a c := by
  intro place
  exact ((first place).mono fun _ _ => second.locate).trans (second place)

theorem of_edits {place : Place} (edits : a.Edits (· = place) b)
    (growth : Growth env cwd b place (a.node? place) (b.node? place)) : Grows env cwd a b := by
  intro other
  by_cases here : other = place
  · exact here ▸ growth
  · rw [edits.others other here]
    exact .same _

theorem of_adds {path : Path} (within : path = env.configDir ∨ path = env.stateDir)
    (adds : Files.Adds cwd path a b) : Grows env cwd a b := by
  intro place
  rcases adds.nodes place with same | ⟨none, new, way⟩
  · rw [same]
    exact .same _
  · rw [none, new]
    rcases within with rfl | rfl
    · exact .directory (.inl way)
    · exact .directory (.inr way)

theorem config_eq (grows : Grows env cwd a b) {place : Place} (here : env.ConfigAt cwd a place)
    (there : a.node? place ≠ none) : b.node? place = a.node? place := by
  have growth := grows place
  have still : env.ConfigAt cwd b place := grows.locate here
  have notLog := Environment.not_logAt_of_configAt still
  generalize a.node? place = before at growth there ⊢
  generalize b.node? place = after at growth ⊢
  cases growth with
  | same => rfl
  | directory | config | log => exact absurd rfl there
  | appended log => exact absurd log notLog

end Grows

/-! ## Calls and files -/

variable {σ : Type}

theorem Site.placeFile_cwd (env : Environment) (site : Site σ) (dir : Path) (name : String) :
    (site.placeFile env dir name).2.cwd = site.cwd := by
  unfold Site.placeFile Site.makeDirectories
  split
  next => rfl
  next =>
    generalize site.files.makeDirectories site.cwd dir = result
    obtain ⟨_ | _, after⟩ := result
    · rfl
    · rfl

/-- At most directories are made. -/
theorem Site.placeFile_adds (env : Environment) (site : Site σ) (dir : Path) (name : String) :
    Files.Adds site.cwd dir site.files (site.placeFile env dir name).2.files := by
  have adds := Files.makeDirectories_adds site.files site.cwd dir
  unfold Site.placeFile Site.makeDirectories
  split
  next => exact .refl site.cwd dir site.files
  next =>
    generalize site.files.makeDirectories site.cwd dir = result at adds ⊢
    obtain ⟨_ | _, after⟩ := result
    · exact adds
    · exact adds

theorem Site.placeFile_eq_ok {site after : Site σ} {dir path : Path} {name : String}
    (placed : site.placeFile env dir name = (.ok path, after)) : path = dir.join name := by
  unfold Site.placeFile at placed
  split at placed
  next => cases placed
  next =>
    split at placed
    next => cases placed
    next =>
      cases placed
      rfl

/-- One site behind another: files have grown, and the working directory is the same. -/
structure Site.Behind (env : Environment) (before after : Site σ) : Prop where
  cwd : after.cwd = before.cwd
  grows : Grows env before.cwd before.files after.files

namespace Site.Behind

variable {a b c : Site σ}

theorem refl (env : Environment) (site : Site σ) : Behind env site site := ⟨rfl, .refl env _ _⟩

theorem trans (first : Behind env a b) (second : Behind env b c) : Behind env a c where
  cwd := second.cwd.trans first.cwd
  grows := first.grows.trans (first.cwd ▸ second.grows)

theorem log (behind : Behind env a b) (event : Event) : Behind env a (b.log event) :=
  ⟨behind.cwd, behind.grows⟩

theorem placeFile (env : Environment) {dir : Path}
    (within : dir = env.configDir ∨ dir = env.stateDir) (site : Site σ) (name : String) :
    Behind env site (site.placeFile env dir name).2 where
  cwd := placeFile_cwd env site dir name
  grows := .of_adds within (placeFile_adds env site dir name)

theorem store {place : Place} (site : Site σ) (here : env.LogAt site.cwd site.files place)
    (bytes : Bytes) : Behind env site (site.store place bytes).2 where
  cwd := rfl
  grows := by
    have edits := Files.store_edits site.files place bytes
    refine .of_edits edits ?_
    change Growth env site.cwd _ place _ ((site.files.store place bytes).2.node? place)
    obtain unchanged | ⟨content, more, capacity, before, after⟩ :=
      Files.store_appends site.files place bytes
    · rw [unchanged]
      exact .same _
    · rw [before, after]
      exact .appended (edits.locate_iff.2 here) content more capacity

theorem openForAppend (env : Environment) (site : Site σ) :
    Behind env site (site.openForAppend env.logPath).2 ∧
      ∀ place, (site.openForAppend env.logPath).1 = .ok place →
        env.LogAt site.cwd site.files place := by
  unfold Site.openForAppend
  cases opened : site.files.openForAppend site.cwd env.logPath with
  | error e => exact ⟨refl env site, nofun⟩
  | ok made =>
    obtain ⟨place, after⟩ := made
    obtain ⟨located, opening⟩ := Files.openFile_eq_ok opened
    refine ⟨⟨rfl, ?_⟩, fun other same => by cases same; exact located⟩
    -- It is opened for appending, so that nothing is emptied.
    cases opening with
    | kept | device => exact .refl env site.cwd site.files
    | new free =>
      have notDirectory : site.files.node? place ≠ some .directory := by simp [free]
      let node : Node := .file [] (site.files.capacityAt place)
      have new := Files.node?_set_of_ne_directory notDirectory node
      have edits : site.files.Edits (· = place) (site.files.set place node) :=
        .set notDirectory (free ▸ .new [])
      refine .of_edits edits ?_
      rw [free]
      exact new ▸ .log (edits.locate_iff.2 located) [] _

end Site.Behind

theorem configAt_of_behind {a b : Site σ} {place : Place} (behind : Site.Behind env a b)
    (here : env.ConfigAt a.cwd a.files place) : env.ConfigAt b.cwd b.files place := by
  unfold Environment.ConfigAt
  rw [behind.cwd]
  exact behind.grows.locate here

theorem logAt_of_behind {a b : Site σ} {place : Place} (behind : Site.Behind env a b)
    (here : env.LogAt a.cwd a.files place) : env.LogAt b.cwd b.files place := by
  unfold Environment.LogAt
  rw [behind.cwd]
  exact behind.grows.locate here

theorem Program.writeLog_behind {place : Place} (lines : List String) {site : Site σ}
    (here : env.LogAt site.cwd site.files place) :
    Site.Behind env site (Program.writeLog place lines site) := by
  induction lines generalizing site with
  | nil => exact .refl env site
  | cons line lines ih =>
    have stored := Site.Behind.store site here (Utf8.encode line)
    exact stored.trans (ih (logAt_of_behind stored here))

theorem Log.place_behind (env : Environment) (site : Site σ) :
    Site.Behind env site (Log.place env site).2 ∧
      ∀ path, (Log.place env site).1 = .ok path → path = env.logPath := by
  have placed := Site.Behind.placeFile env (.inr rfl) site Log.fileName
  unfold Log.place
  generalize ready : site.placeFile env env.stateDir Log.fileName = result at placed ⊢
  obtain ⟨(_ | _) | path, between⟩ := result
  · exact ⟨placed, nofun⟩
  · exact ⟨placed, nofun⟩
  · refine ⟨placed, fun other same => ?_⟩
    cases same
    exact Site.placeFile_eq_ok ready

theorem Log.openFile_behind (env : Environment) (running : Bool) (site : Site σ) :
    Site.Behind env site (Log.openFile env running site).2 ∧
      ∀ path place, (Log.openFile env running site).1 = .ok (path, place) →
        env.LogAt (Log.openFile env running site).2.cwd (Log.openFile env running site).2.files
          place := by
  obtain ⟨placed, named⟩ := Log.place_behind env site
  unfold Log.openFile
  generalize Log.place env site = result at placed named ⊢
  obtain ⟨_ | path, between⟩ := result
  · exact ⟨placed, nofun⟩
  · obtain rfl := named path rfl
    obtain ⟨opened, here⟩ := Site.Behind.openForAppend env between
    dsimp only
    generalize between.openForAppend env.logPath = result at opened here ⊢
    obtain ⟨_ | place, after⟩ := result
    · exact ⟨placed.trans opened, nofun⟩
    · cases running with
      | true => exact ⟨placed.trans opened, nofun⟩
      | false =>
        refine ⟨placed.trans opened, fun path other same => ?_⟩
        cases same
        exact logAt_of_behind opened (here place rfl)

namespace Config

/-! ## The configuration file -/

/-- The text in a new file gives the configuration that is used when nothing is set. -/
theorem parse_defaultText : parse defaultText = .ok .default := by
  have writable : default.http.IsWritable := HttpSettings.isWritable_default
  obtain ⟨text, written⟩ := exists_write writable
  -- It can be written, so the empty text does not take its place.
  have same : defaultText = text := by simp only [defaultText, written]
  rw [same]
  exact parse_of_write written

theorem read_of_defaultText {path : Path} {site : Site σ}
    (holds : site.files.read site.cwd path = .ok (Utf8.encode defaultText)) :
    read path site = .ok .default := by
  simp only [read, holds, Utf8.text?_encode, parse_defaultText]

/-- No configuration comes from a path: nothing can be read there, or what is read is not accepted. -/
def IsUnusable (path : Path) (site : Site σ) : Prop :=
  ∀ content text config, site.files.read site.cwd path = .ok content →
    Utf8.text? content = some text → parse text ≠ .ok config

theorem read_of_isUnusable {path : Path} {site : Site σ} (unusable : IsUnusable path site) :
    ∃ e, read path site = .error e := by
  unfold read
  split
  next e _ => exact ⟨.io e, rfl⟩
  next content holds =>
    split
    next => exact ⟨.io .notText, rfl⟩
    next text decoded =>
      split
      next config accepted => exact absurd accepted (unusable content text config holds decoded)
      next e _ => exact ⟨.parse path text e, rfl⟩

/-- Whether the configuration file is missing and can be made, with room for its text. -/
def isCreatable (env : Environment) (site : Site σ) : Bool :=
  match place env site with
  | (.ok path, ready) =>
    !ready.files.isThere ready.cwd path &&
      match ready.files.create ready.cwd path with
      | .ok (place, _) =>
        Files.HasRoom (ready.files.capacityAt place) (Utf8.encode defaultText).length
      | .error _ => false
  | (.error _, _) => false

theorem home_of_isCreatable {site : Site σ} (creatable : isCreatable env site) :
    env.home.isSome := by
  cases home : env.home with
  | none => simp [isCreatable, place, Site.placeFile, home] at creatable
  | some _ => rfl

/-- A configuration file that was made where nothing was, and what is written to it: a front of the
default text, and all of it if there is room. -/
structure MadeAt (path : Path) (place : Place) (content : Bytes) (before : Site σ)
    (ended : Except LoadError Config × Site σ) : Prop where
  located : before.files.locate before.cwd path = .ok ⟨place, false⟩
  free : before.files.node? place = none
  cwd : ended.2.cwd = before.cwd
  edits : before.files.Edits (· = place) ended.2.files
  front : content <+: Utf8.encode defaultText
  holds : ended.2.files.node? place = some (.file content (before.files.capacityAt place))
  whole : Files.HasRoom (before.files.capacityAt place) (Utf8.encode defaultText).length →
    ended.1 = .ok .default ∧ content = Utf8.encode defaultText
  fails : ∀ e, ended.1 = .error e → content ≠ Utf8.encode defaultText

theorem create_of_missing {path : Path} {site : Site σ} {made : Place × Files}
    (missing : site.files.isThere site.cwd path = false)
    (created : site.files.create site.cwd path = .ok made) :
    ∃ content, MadeAt path made.1 content site (create path site) := by
  obtain ⟨place, opened⟩ := made
  obtain ⟨located, free⟩ := Files.free_of_create missing created
  obtain ⟨_, same, empty⟩ := Files.create_of_free located free
  cases created.symm.trans same
  obtain ⟨content, rest, split, taken, room, holds⟩ :=
    Files.store_of_empty empty (Utf8.encode defaultText)
  have edits := (Files.create_edits created).trans
    (Files.store_edits opened place (Utf8.encode defaultText))
  refine ⟨content, ?_⟩
  simp only [create, Site.create, created, Site.store, Site.record]
  generalize opened.store place (Utf8.encode defaultText) = result at taken holds edits
  obtain ⟨answer, after⟩ := result
  have front : content <+: Utf8.encode defaultText := ⟨rest, split⟩
  cases answer with
  | error e =>
    have short : rest ≠ [] := fun none => by cases taken.2 none
    exact {
      located, free, edits, front, holds
      cwd := rfl
      whole := fun fits => absurd (room.1 fits) short
      fails := fun _ _ same => short (List.append_right_eq_self.1 (split.trans same.symm)) }
  | ok =>
    obtain rfl := taken.1 rfl
    rw [List.append_nil] at split
    exact {
      located, free, edits, front, holds
      cwd := rfl
      whole := fun _ => ⟨rfl, split⟩
      fails := fun _ failed => by cases failed }

theorem MadeAt.behind {place : Place} {content : Bytes} {before : Site σ}
    {ended : Except LoadError Config × Site σ}
    (made : MadeAt env.configPath place content before ended) : Site.Behind env before ended.2 where
  cwd := made.cwd
  grows := by
    refine .of_edits made.edits ?_
    rw [made.free, made.holds]
    exact .config (made.edits.locate_iff.2 made.located) made.front _

theorem create_behind {site : Site σ}
    (missing : site.files.isThere site.cwd env.configPath = false) :
    Site.Behind env site (create env.configPath site).2 := by
  cases created : site.files.create site.cwd env.configPath with
  | error e =>
    simp only [create, Site.create, created]
    exact .refl env site
  | ok made =>
    obtain ⟨_, made⟩ := create_of_missing missing created
    exact made.behind

theorem load_behind (env : Environment) (site : Site σ) :
    Site.Behind env site (load env site).2 := by
  have placed := Site.Behind.placeFile env (.inl rfl) site fileName
  unfold load place
  generalize ready : site.placeFile env env.configDir fileName = result at placed ⊢
  obtain ⟨_ | path, between⟩ := result
  · exact placed
  · obtain rfl : path = env.configPath := Site.placeFile_eq_ok ready
    dsimp only
    split
    next => exact placed
    next missing => exact placed.trans (create_behind (by simpa using missing))

/-- The file that is made holds the default configuration. -/
theorem load_of_isCreatable {site : Site σ} (creatable : isCreatable env site) :
    (load env site).1 = .ok .default ∧
      (load env site).2.files.read site.cwd env.configPath = .ok (Utf8.encode defaultText) := by
  have cwd := Site.placeFile_cwd env site env.configDir fileName
  unfold load place
  unfold isCreatable place at creatable
  generalize ready : site.placeFile env env.configDir fileName = result at creatable cwd ⊢
  obtain ⟨_ | path, between⟩ := result
  · cases creatable
  · obtain rfl : path = env.configPath := Site.placeFile_eq_ok ready
    dsimp only at creatable cwd ⊢
    simp only [Bool.and_eq_true, Bool.not_eq_true'] at creatable
    obtain ⟨missing, possible⟩ := creatable
    rw [if_neg (by simp [missing])]
    cases created : between.files.create between.cwd env.configPath with
    | error e =>
      rw [created] at possible
      cases possible
    | ok made =>
      rw [created] at possible
      -- The file that was just written is the one that the path leads to.
      obtain ⟨content, done⟩ := create_of_missing missing created
      obtain ⟨answer, rfl⟩ := done.whole possible
      have located := done.edits.locate_iff.2 done.located
      rw [cwd] at located
      refine ⟨answer, ?_⟩
      simp only [Files.read, located, done.holds, Bool.false_eq_true, if_false]

/-- The first load of all, below a home directory that is not there yet. -/
example : isCreatable ⟨some "/home/user", none, none, none⟩
    (Site.start .empty [] () ⟨none, none, .silence, []⟩) := by decide +kernel

/-- Without a home directory there is no path to look at. -/
theorem load_of_homeless (homeless : env.home = none) (site : Site σ) :
    load env site = (.error (.place .homeless), site) := by
  simp [load, place, Site.placeFile, homeless]

/-- A file that is there is read, and its directory is not made again. -/
theorem load_of_isThere {site : Site σ} (home : env.home.isSome)
    (there : site.files.isThere site.cwd env.configPath) :
    load env site = (read env.configPath site, site.record (.makeDirectories env.configDir)) := by
  -- The path leads through the directory, so that is there as well.
  obtain ⟨place, here, -⟩ := env.isThere_configPath_iff.1 there
  have directory := Files.isDirectory_of_locate_join Path.isName_configFile env.configDir_ne here
  have settled : env.home.isNone = false := by simpa [Option.isSome_iff_ne_none] using home
  simp only [load, Config.place, Site.placeFile, settled, Site.makeDirectories,
    Files.makeDirectories_of_isDirectory directory]
  exact if_pos there

/-- A file that is there gives the same configuration from then on, or the same error. -/
theorem read_of_behind {a b : Site σ} (behind : Site.Behind env a b)
    (there : a.files.isThere a.cwd env.configPath) :
    b.files.isThere b.cwd env.configPath ∧ read env.configPath b = read env.configPath a := by
  obtain ⟨place, here, filled⟩ := env.isThere_configPath_iff.1 there
  have same := behind.grows.config_eq here filled
  have still := configAt_of_behind behind here
  refine ⟨env.isThere_configPath_iff.2 ⟨place, still, same ▸ filled⟩, ?_⟩
  unfold Environment.ConfigAt at here still
  simp only [read, Files.read, here, still, same]

end Config

end VectorFetch

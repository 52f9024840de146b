import VectorFetch.Proofs.Batch.Progress
import VectorFetch.Proofs.Program
import VectorFetch.Proofs.Text.Split

/-!
# Arguments that ask for no run

* `Command.IsOption`, `Command.Leads`: the options, and the argument lists that begin with one.
* `Command.parse_eq_run_iff`, `Command.parse_eq_iff`: what arguments ask for.
* `Program.Dismissed`, `Program.run_dismissed`: what is left of a program that was not asked to run.
-/

namespace VectorFetch

open Site Batch

variable {σ : Type}

/-! ## Reading -/

namespace Command

/-- The options: by which name and letter they go, what they ask for, and the text they show. -/
inductive IsOption : String → Char → Command → String → Prop where
  | help : IsOption "help" 'h' .help helpText
  | version : IsOption "version" 'V' .version versionText

/-- The first argument is an option, by its name alone or as the first of letters. -/
def Leads (name : String) (letter : Char) (arguments : List String) : Prop :=
  ∃ first rest, arguments = first :: rest ∧
    (first = "--" ++ name ∨ ∃ more, first.toList = '-' :: letter :: more)

variable {name text : String} {letter : Char} {command : Command}

theorem IsOption.ne_run (option : IsOption name letter command text) : command ≠ .run := by
  cases option <;> nofun

theorem IsOption.ne_misuse (option : IsOption name letter command text) (misuse : Misuse) :
    command ≠ .misuse misuse := by
  cases option <;> nofun

theorem IsOption.unique {name' text' : String} {letter' : Char}
    (option : IsOption name letter command text) (other : IsOption name' letter' command text') :
    name' = name ∧ letter' = letter := by
  cases option <;> cases other <;> exact ⟨rfl, rfl⟩

theorem ofName?_eq_some_iff :
    ofName? name = some command ↔ ∃ letter text, IsOption name letter command text := by
  constructor
  · intro found
    unfold ofName? at found
    split at found
    next same =>
      subst same
      cases found
      exact ⟨_, _, .help⟩
    next =>
      split at found
      next same =>
        subst same
        cases found
        exact ⟨_, _, .version⟩
      next => cases found
  · rintro ⟨_, _, _ | _⟩ <;> rfl

theorem ofLetter?_eq_some_iff :
    ofLetter? letter = some command ↔ ∃ name text, IsOption name letter command text := by
  constructor
  · intro found
    unfold ofLetter? at found
    split at found
    next same =>
      subst same
      cases found
      exact ⟨_, _, .help⟩
    next =>
      split at found
      next same =>
        subst same
        cases found
        exact ⟨_, _, .version⟩
      next => cases found
  · rintro ⟨_, _, _ | _⟩ <;> rfl

/-- Behind two dashes only the name alone has a meaning. -/
theorem IsOption.ofLong_eq_iff (option : IsOption name letter command text) {s : List Char} :
    ofLong s = command ↔ s = name.toList := by
  constructor
  · intro asked
    unfold ofLong at asked
    dsimp only at asked
    split at asked
    next found nothing =>
      subst asked
      obtain ⟨_, _, other⟩ := ofName?_eq_some_iff.1 found
      have parts := List.takeWhile_append_dropWhile (p := (· ≠ '=')) (l := s)
      rw [nothing, List.append_nil] at parts
      rw [← (option.unique other).1, String.toList_ofList, parts]
    next => exact absurd asked.symm (option.ne_misuse _)
    next => exact absurd asked.symm (option.ne_misuse _)
  · rintro rfl
    cases option <;> decide

theorem IsOption.ofArgument_eq_iff (option : IsOption name letter command text)
    {argument : String} : ofArgument argument = command ↔
      argument = "--" ++ name ∨ ∃ more, argument.toList = '-' :: letter :: more := by
  rw [← String.toList_inj, String.toList_append]
  unfold ofArgument
  split
  next long spelled =>
    have other : letter ≠ '-' := by cases option <;> decide
    rw [option.ofLong_eq_iff, spelled]
    simp [other.symm]
  next first more notLong spelled =>
    rw [spelled]
    have named : '-' :: first :: more ≠ "--".toList ++ name.toList := fun same =>
      notLong (List.cons.inj (List.cons.inj same).2).1
    -- What stands behind the letter is not looked at.
    have short : ofLetter? first = some command ↔ first = letter := by
      constructor
      · intro found
        obtain ⟨_, _, other⟩ := ofLetter?_eq_some_iff.1 found
        exact (option.unique other).2
      · rintro rfl
        exact ofLetter?_eq_some_iff.2 ⟨_, _, option⟩
    have behind : ((∃ rest, '-' :: first :: more = '-' :: letter :: rest) ↔ first = letter) := by
      simp
    rw [behind, ← short, or_iff_right named]
    cases found : ofLetter? first with
    | none => simpa using (option.ne_misuse _).symm
    | some asked => simp
  next none notShort =>
    constructor
    · intro asked
      exact absurd asked.symm (option.ne_misuse _)
    · rintro (long | ⟨more, short⟩)
      · exact absurd long (none _)
      · exact absurd short (notShort _ _)

theorem ofLong_ne_run (s : List Char) : ofLong s ≠ .run := by
  unfold ofLong
  dsimp only
  split
  next found _ =>
    obtain ⟨_, _, option⟩ := ofName?_eq_some_iff.1 found
    exact option.ne_run
  next => nofun
  next => nofun

theorem ofArgument_ne_run (argument : String) : ofArgument argument ≠ .run := by
  unfold ofArgument
  split
  next => exact ofLong_ne_run _
  next first _ _ _ =>
    cases found : ofLetter? first with
    | none => nofun
    | some command =>
      obtain ⟨_, _, option⟩ := ofLetter?_eq_some_iff.1 found
      exact option.ne_run
  next => nofun

/-- Arguments ask for a run only where there are none. -/
theorem parse_eq_run_iff (arguments : List String) :
    parse arguments = .run ↔ arguments = [] ∨ arguments = ["--"] := by
  unfold parse
  split
  next => simp
  next => simp
  next => simp
  next argument rest alone separated =>
    have other := ofArgument_ne_run argument
    simp only [other, List.cons_ne_nil, List.cons.injEq, false_or, false_iff, not_and]
    exact alone

/-- Two dashes alone are no option. -/
theorem IsOption.not_leads_dashes (option : IsOption name letter command text)
    (rest : List String) : ¬Leads name letter ("--" :: rest) := by
  rintro ⟨_, _, same, first⟩
  cases same
  cases option <;> simp at first

/-- The first argument decides what is shown. -/
theorem IsOption.parse_eq_iff (option : IsOption name letter command text)
    (arguments : List String) : parse arguments = command ↔ Leads name letter arguments := by
  unfold parse
  split
  next => simp [Leads, option.ne_run.symm]
  next =>
    simp only [option.ne_run.symm, false_iff]
    exact option.not_leads_dashes []
  next argument rest _ =>
    simp only [(option.ne_misuse _).symm, false_iff]
    exact option.not_leads_dashes _
  next => simp [Leads, option.ofArgument_eq_iff]

end Command

/-! ## Lines -/

namespace Batch

theorem subset_of_mem_completeLines {bytes line : Bytes} (member : line ∈ completeLines bytes) :
    line ⊆ bytes :=
  fun b here => (of_mem_splitOn (List.dropLast_subset _ member) b here).1

/-- A line of progress, without its end. -/
def IsProgress (line : Bytes) : Prop := line = Utf8.encode keyList ∨ ∃ key, line = gotLine key

theorem mem_encode_append {front rest : String} {b : UInt8} (member : b ∈ Utf8.encode front) :
    b ∈ Utf8.encode (front ++ rest) := by
  rw [Utf8.encode, String.toList_append, Utf8.encodeChars_append]
  exact List.mem_append_left _ member

/-- A line of progress begins with a bracket or with a capital G. -/
theorem IsProgress.mem {line : Bytes} (progress : IsProgress line) : 0x5B ∈ line ∨ 0x47 ∈ line := by
  rcases progress with same | ⟨key, same⟩
  · have bracket : 0x5B ∈ Utf8.encode "[" := by decide
    exact .inl (same ▸ mem_encode_append (mem_encode_append bracket))
  · have capital : 0x47 ∈ Utf8.encode "Got " := by decide
    exact .inr (same ▸ mem_encode_append capital)

theorem not_isProgress_of_option {name text : String} {letter : Char} {command : Command}
    (option : Command.IsOption name letter command text) {part line : Bytes}
    (front : part <+: Utf8.encode text) (member : line ∈ completeLines part) :
    ¬IsProgress line := by
  have within : line ⊆ Utf8.encode text :=
    List.Subset.trans (subset_of_mem_completeLines member) front.subset
  have absent : '[' ∉ text.toList ∧ 'G' ∉ text.toList := by
    cases option <;> decide +kernel
  intro progress
  rcases progress.mem with bracket | capital
  · exact absent.1 (Utf8.ofUInt8_mem_of_mem_encodeChars (by decide) (within bracket))
  · exact absent.2 (Utf8.ofUInt8_mem_of_mem_encodeChars (by decide) (within capital))

end Batch

/-! ## Runs -/

namespace Program

/-- What is shown when an option is asked for, and what is said of anything else. -/
inductive Replied (arguments : List String) (site : Site σ) : Report × Site σ → Prop where
  | shown {name text : String} {letter : Char} {command : Command} {ended : Report × Site σ}
    (option : Command.IsOption name letter command text)
    (leads : Command.Leads name letter arguments) (status : ended.1.status = 0)
    (printed : ended.2.progress = ((attach site).progress.takeAll (Utf8.encode text)).2)
    (output : ended.1.output = (site.progress.takeAll (Utf8.encode text)).2.taken) :
    Replied arguments site ended
  | refused {misuse : Misuse} {ended : Report × Site σ} {lines : List String}
    (none : ∀ name letter command text, Command.IsOption name letter command text →
      ¬Command.Leads name letter arguments)
    (status : ended.1.status = 2) (printed : ended.2.progress = (attach site).progress)
    (output : ended.1.output = site.progress.taken)
    (whole : IsLines lines) (told : ended.1.errors = String.join lines ++ misuse.text) :
    Replied arguments site ended

/-- A program that was not asked to run: it asks for nothing, announces nothing, and touches no file
but the log. -/
structure Dismissed (env : Environment) (arguments : List String) (site : Site σ)
    (ended : Report × Site σ) : Prop where
  cwd : ended.2.cwd = site.cwd
  server : ended.2.server = site.server
  requests : ended.2.requests = site.requests
  replied : Replied arguments site ended
  unannounced : ∃ part, ended.2.progress = (attach site).progress.accept part ∧
    ∀ line ∈ completeLines part, ¬IsProgress line
  /-- Nor does a line of progress arrive. -/
  unheard : ∃ part, ended.1.output = site.progress.taken ++ part ∧
    ∀ line ∈ completeLines part, ¬IsProgress line
  files : Prepares env site.cwd site.files ended.2.files
  /-- Where the configuration file or an artifact would be there is no new file. -/
  spared : ∀ place, (env.ConfigAt site.cwd ended.2.files place ∨ ∃ key,
      ended.2.files.locate site.cwd ((batch .default).artifactPath key) = .ok ⟨place, false⟩) →
    ended.2.files.node? place = site.files.node? place ∨
      site.files.node? place = none ∧ ended.2.files.node? place = some .directory

variable {wording : Toml.Wording} {net : Network σ} {env : Environment} {arguments : List String}
  {site : Site σ}

/-- What an option shows has no line of progress, wherever it ends. -/
theorem exists_unannounced {name text : String} {letter : Char} {command : Command}
    (option : Command.IsOption name letter command text) (sink : Sink) :
    ∃ part, (sink.takeAll (Utf8.encode text)).2 = sink.accept part ∧
      ∀ line ∈ completeLines part, ¬IsProgress line := by
  obtain ⟨part, front, taken, -⟩ := sink.takeAll_accepts (Utf8.encode text)
  exact ⟨part, taken, fun line member => not_isProgress_of_option option front member⟩

/-- What is done where no run is asked for. -/
inductive Performed (site : Site σ) : Command → Outcome → Site σ → Prop where
  | shown {name text : String} {letter : Char} {command : Command}
    (option : Command.IsOption name letter command text) :
    Performed site command ⟨0, ""⟩ (say text site)
  | refused (misuse : Misuse) : Performed site (.misuse misuse) ⟨2, misuse.text⟩ site

theorem exists_performed (wording : Toml.Wording) (net : Network σ) (env : Environment)
    (site : Site σ) {command : Command} (other : command ≠ .run) :
    ∃ outcome performed, perform wording net env command site = (outcome, performed) ∧
      Performed site command outcome performed := by
  cases command with
  | run => exact absurd rfl other
  | help => exact ⟨_, _, rfl, .shown .help⟩
  | version => exact ⟨_, _, rfl, .shown .version⟩
  | misuse misuse => exact ⟨_, _, rfl, .refused misuse⟩

theorem Performed.alike {command : Command} {outcome : Outcome} {performed : Site σ}
    (did : Performed site command outcome performed) : Alike performed site := by
  cases did with
  | shown => exact print_alike site _
  | refused => exact .refl site

/-- What came of it is replied, whatever the log adds. -/
theorem Logged.replied {may : Place → Prop} {opened performed : Site σ} {outcome : Outcome}
    {ended : Report × Site σ} (logged : Logged may outcome site.progress performed ended)
    (did : Performed opened (Command.parse arguments) outcome performed)
    (same : opened.progress = (attach site).progress) :
    Replied arguments site ended ∧
      (∃ part, ended.2.progress = (attach site).progress.accept part ∧
        ∀ line ∈ completeLines part, ¬IsProgress line) ∧
      ∃ part, ended.1.output = site.progress.taken ++ part ∧
        ∀ line ∈ completeLines part, ¬IsProgress line := by
  have progress := logged.quiet.progress
  have output := logged.output
  have status := logged.status
  obtain ⟨lines, whole, told⟩ := logged.errors
  generalize parsed : Command.parse arguments = command at did
  cases did with
  | @shown name text letter command option =>
    have taken : (say text opened).progress =
        (opened.progress.takeAll (Utf8.encode text)).2 := rfl
    rw [taken, same] at progress output
    have arrives : ended.1.output = (site.progress.takeAll (Utf8.encode text)).2.taken :=
      output.trans (arrived_takeAll site.progress _)
    have unannounced := exists_unannounced option (attach site).progress
    obtain ⟨part, accepted, unheard⟩ := exists_unannounced option site.progress
    rw [← progress] at unannounced
    exact ⟨.shown option ((option.parse_eq_iff _).1 parsed) status progress arrives, unannounced,
      part, by rw [arrives, accepted, Sink.accept], unheard⟩
  | refused misuse =>
    rw [same] at progress output
    have arrives : ended.1.output = site.progress.taken :=
      output.trans (arrived_standardOutput site.progress)
    -- Had an option come first, it would have been asked for.
    have none : ∀ name letter command text, Command.IsOption name letter command text →
        ¬Command.Leads name letter arguments := by
      intro name letter command text option leads
      rw [← option.parse_eq_iff, parsed] at leads
      exact option.ne_misuse misuse leads.symm
    exact ⟨.refused none status progress arrives whole told,
      ⟨[], by simpa using progress, by simp [completeLines]⟩,
      [], by simpa using arrives, by simp [completeLines]⟩

theorem run_dismissed (time : String) (dismissed : Command.parse arguments ≠ .run) :
    Dismissed env arguments site (run wording net env time arguments site) := by
  have opened := openLog_quiet env (attach site)
  have prepared := openLog_prepares env (attach site)
  obtain ⟨-, log⟩ := openLog_behind env (attach site)
  obtain ⟨outcome, performed, followed, did⟩ :=
    exists_performed wording net env (openLog env (attach site)).2 dismissed
  have alike := did.alike
  -- The log is written where it was opened.
  have lasting : ∀ place, (openLog env (attach site)).1 = some place →
      env.LogAt performed.cwd performed.files place := by
    rw [alike.cwd, alike.files]
    exact log
  have logged := (run_logged wording net env time arguments site followed).mono lasting
  have written := logged.files
  rw [alike.cwd, alike.files, opened.cwd] at written
  have files := prepared.trans (.of_edits written)
  obtain ⟨replied, unannounced, unheard⟩ := logged.replied did opened.progress
  refine {
    cwd := logged.quiet.cwd.trans (alike.cwd.trans opened.cwd)
    server := logged.quiet.server.trans (alike.server.trans opened.server)
    requests := logged.quiet.requests.trans (alike.requests.trans opened.requests)
    replied, unannounced, unheard, files
    spared := ?_ }
  rintro place (config | ⟨key, artifact⟩)
  · exact files.others place (Environment.not_logAt_of_configAt config)
  · exact files.others place (not_logAt_of_artifact artifact)

/-- Arguments ask for a run only where there are none, or two dashes alone. With any others nothing
is asked for, announced or made besides the log, whatever the environment, the files and the
servers are. -/
theorem run_of_arguments (wording : Toml.Wording) (net : Network σ) (env : Environment)
    (time : String) (arguments : List String) (site : Site σ) :
    (Command.parse arguments = .run ↔ arguments = [] ∨ arguments = ["--"]) ∧
      (Command.parse arguments ≠ .run →
        Dismissed env arguments site (run wording net env time arguments site)) :=
  ⟨Command.parse_eq_run_iff arguments, run_dismissed time⟩

/-- A value for an option that takes none comes before an option, an empty argument and a file name.
An artifact is there, and a directory with the name of the configuration file is above the log. -/
theorem run_of_arguments_of_unwanted :
    let wording : Toml.Wording := fun _ => "TOML parse error"
    let net : Network Nat :=
      ⟨fun _ => none, fun n _ => (.message 200 [] [0x30], n + 1), fun _ _ _ => none⟩
    let env : Environment := ⟨some "/h", none, some "/h/.config/tvfetch/config.toml", none⟩
    let arguments := ["--help=now", "-V", "", "--", "00.json"]
    let files : Files := ⟨[(["w"], .directory), (["w", "00.json"], .file [0x31] none)], []⟩
    let site : Site Nat := .start files ["w"] 0 ⟨some 1, some 1, .silence, []⟩
    Command.parse arguments = .misuse (.unwanted "--help" "now") ∧
      (run wording net env "noon" arguments site).1.status = 2 ∧
      Command.parse arguments ≠ .run ∧
      Dismissed env arguments site (run wording net env "noon" arguments site) := by
  intro wording net env arguments files site
  have asked : Command.parse arguments ≠ .run := by decide +kernel
  exact ⟨by decide +kernel, by decide +kernel, asked,
    (run_of_arguments wording net env "noon" arguments site).2 asked⟩

end Program

end VectorFetch

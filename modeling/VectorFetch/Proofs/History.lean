import Mathlib.Data.List.Infix
import VectorFetch.Proofs.Site
import VectorFetch.Proofs.Files.Edits

/-!
# What was done to a site

* `History`: effects in order, with what was requested, what was accepted of progress, and the
  files to which the same is done.
* `Site.Did`: a site behind a history. `did_print` and its like say it of what is done to a site.
* `Effect.Within`, `Site.Confined`: what may be done to the files of some paths, and work that does
  nothing else. By `replay_edits` nothing else is written.
* `History.Stopped`: what was done of a history that was stopped at some point.
-/

namespace VectorFetch

namespace Sink

/-- A sink of which no call takes anything refuses all bytes alike. -/
theorem takeAll_of_stuck {s : Sink} (stuck : s.perCall = some 0) :
    ∃ e, ∀ bytes ≠ [], s.takeAll bytes = (.error e, s) := by
  by_cases full : s.room = some 0
  · refine ⟨s.shortage, fun bytes notEmpty => ?_⟩
    obtain ⟨b, rest, rfl⟩ := List.exists_cons_of_ne_nil notEmpty
    cases hr : s.refusal <;> simp [takeAll, take_of_room_eq_zero full, hr, shortage]
  · refine ⟨.nothingTaken, fun bytes notEmpty => ?_⟩
    obtain ⟨b, rest, rfl⟩ := List.exists_cons_of_ne_nil notEmpty
    have nothing : s.portion (rest.length + 1) = 0 := by
      cases hr : s.room <;> simp [portion, limit, stuck, hr]
    simp [takeAll, take_of_room_ne_zero full, nothing]

theorem takeAll_snd_of_stuck {s : Sink} (stuck : s.perCall = some 0) (bytes : Bytes) :
    (s.takeAll bytes).2 = s := by
  obtain ⟨e, refuses⟩ := takeAll_of_stuck stuck
  by_cases empty : bytes = []
  · rw [empty, takeAll]
  · rw [refuses bytes empty]

/-- A sink takes a front of what it is given, and all of it if it does not refuse. -/
theorem takeAll_accepts (s : Sink) (bytes : Bytes) : ∃ part, part <+: bytes ∧
    (s.takeAll bytes).2 = s.accept part ∧ ((s.takeAll bytes).1 = .ok () → part = bytes) := by
  by_cases calls : s.perCall = some 0
  · refine ⟨[], List.nil_prefix, ?_⟩
    rw [accept_nil]
    obtain ⟨e, refuses⟩ := takeAll_of_stuck calls
    by_cases empty : bytes = []
    · rw [empty, takeAll]
      exact ⟨rfl, fun _ => rfl⟩
    · rw [refuses bytes empty]
      exact ⟨rfl, fun same => by cases same⟩
  · rw [takeAll_eq calls]
    refine ⟨_, List.take_prefix _ _, rfl, fun taken => ?_⟩
    split at taken
    next all => rw [all, List.take_length]
    next => cases taken

end Sink

/-! ## Histories -/

/-- The bytes of progress that were accepted. -/
def Effect.printed : Effect → Bytes
  | .print bytes => bytes
  | _ => []

/-- What was done, in order. -/
abbrev History := List Effect

namespace History

def requests (done : History) : List Http.Request := done.filterMap Effect.request?

def progress (done : History) : Bytes := done.flatMap Effect.printed

/-- Files to which the same is done. -/
def replay (cwd : Place) (done : History) (files : Files) : Files :=
  done.foldl (fun files effect => effect.replay cwd files) files

variable {a b : History}

@[simp] theorem requests_append : requests (a ++ b) = a.requests ++ b.requests := by
  simp [requests]

@[simp] theorem progress_append : progress (a ++ b) = a.progress ++ b.progress := by
  simp [progress]

@[simp] theorem replay_append (cwd : Place) (files : Files) :
    replay cwd (a ++ b) files = b.replay cwd (a.replay cwd files) := by
  simp [replay]

/-- A history of nothing but progress. -/
def Prints (done : History) : Prop := ∀ effect ∈ done, ∃ bytes, effect = .print bytes

namespace Prints

theorem requests_eq_nil (prints : Prints a) : a.requests = [] := by
  rw [requests, List.filterMap_eq_nil_iff]
  intro effect member
  obtain ⟨bytes, rfl⟩ := prints effect member
  rfl

theorem replay_eq (prints : Prints a) (cwd : Place) (files : Files) :
    a.replay cwd files = files := by
  induction a with
  | nil => rfl
  | cons effect done ih =>
    obtain ⟨⟨bytes, rfl⟩, rest⟩ := List.forall_mem_cons.1 prints
    exact ih rest

end Prints

end History

/-! ## Sites behind histories -/

namespace Site

variable {σ : Type}

/-- What was done to a site, and what became of it. -/
structure Did (before : Site σ) (done : History) (after : Site σ) : Prop where
  effects : after.effects = before.effects ++ done
  cwd : after.cwd = before.cwd
  files : after.files = done.replay before.cwd before.files
  progress : after.progress = before.progress.accept done.progress

namespace Did

variable {a b c : Site σ} {first second : History}

theorem refl (site : Site σ) : Did site [] site where
  effects := by simp
  cwd := rfl
  files := rfl
  progress := by simp [History.progress]

theorem trans (earlier : Did a first b) (later : Did b second c) : Did a (first ++ second) c where
  effects := by rw [later.effects, earlier.effects, List.append_assoc]
  cwd := later.cwd.trans earlier.cwd
  files := by rw [later.files, earlier.files, earlier.cwd, History.replay_append]
  progress := by
    rw [later.progress, earlier.progress, Sink.accept_accept, History.progress_append]

theorem log (did : Did a first b) (event : Event) : Did a first (b.log event) :=
  ⟨did.effects, did.cwd, did.files, did.progress⟩

theorem requests (did : Did a first b) : b.requests = a.requests ++ first.requests := by
  simp only [Site.requests, did.effects, List.filterMap_append, History.requests]

/-- Where progress was left alone, none was accepted. -/
theorem progress_eq_nil (did : Did a first b) (same : b.progress = a.progress) :
    first.progress = [] := by
  have taken := congrArg Sink.taken (did.progress.symm.trans same)
  simpa [Sink.accept] using taken

end Did

theorem did_print (site : Site σ) (bytes : Bytes) : ∃ part, part <+: bytes ∧
    Did site [.print part] (site.print bytes).2 ∧
      ((site.print bytes).1 = .ok () → part = bytes) := by
  obtain ⟨part, front, taken, whole⟩ := site.progress.takeAll_accepts bytes
  have accepted : (site.progress.takeAll bytes).2.taken.drop site.progress.taken.length = part := by
    simp [taken, Sink.accept]
  refine ⟨part, front, ⟨?_, rfl, rfl, ?_⟩, whole⟩
  · simp only [print, record, accepted]
  · simpa [print, record, History.progress, Effect.printed] using taken

theorem did_printAll (site : Site σ) (pieces : List Bytes) : ∃ done : History,
    Did site done (site.printAll pieces).2 ∧ done.Prints ∧ done.progress <+: pieces.flatten ∧
      ((site.printAll pieces).1 = .ok () → done.progress = pieces.flatten) := by
  induction pieces generalizing site with
  | nil => exact ⟨[], .refl site, List.forall_mem_nil _, List.nil_prefix, fun _ => rfl⟩
  | cons piece pieces ih =>
    obtain ⟨part, front, did, whole⟩ := did_print site piece
    have single : History.progress [.print part] = part := by
      simp [History.progress, Effect.printed]
    unfold printAll
    generalize site.print piece = result at did whole ⊢
    obtain ⟨e | _, after⟩ := result
    · refine ⟨_, did, by simp [History.Prints], ?_, fun same => by cases same⟩
      rw [single, List.flatten_cons]
      exact front.trans (List.prefix_append _ _)
    · -- The pieces that follow are printed only if all of the first one was accepted.
      obtain rfl := whole rfl
      obtain ⟨rest, didRest, prints, frontRest, wholeRest⟩ := ih after
      refine ⟨_, did.trans didRest, ?_, ?_, fun printed => ?_⟩
      · intro effect member
        rcases List.mem_append.1 member with first | later
        · exact ⟨part, List.mem_singleton.1 first⟩
        · exact prints effect later
      · rw [History.progress_append, single, List.flatten_cons]
        exact (List.prefix_append_right_inj part).2 frontRest
      · rw [History.progress_append, single, wholeRest printed, List.flatten_cons]

end Site

/-! ## Work on some paths -/

/-- What may be done with the files of some paths: they are opened and written, servers are asked,
and there is progress. -/
inductive Effect.Within (files : Files) (cwd : Place) (may : Path → Prop) : Effect → Prop where
  | request (request : Http.Request) : Within files cwd may (.request request)
  | print (bytes : Bytes) : Within files cwd may (.print bytes)
  | create {path : Path} (allowed : may path) : Within files cwd may (.create path)
  | store {path : Path} {place : Place} (allowed : may path)
      (located : files.locate cwd path = .ok ⟨place, false⟩) (bytes : Bytes) :
      Within files cwd may (.store place bytes)

namespace Effect

variable {files other : Files} {cwd : Place} {may might : Path → Prop} {effect : Effect}

theorem Within.mono (within : effect.Within files cwd may) (wider : ∀ path, may path → might path) :
    effect.Within files cwd might := by
  cases within with
  | request request => exact .request request
  | print bytes => exact .print bytes
  | create allowed => exact .create (wider _ allowed)
  | store allowed located bytes => exact .store (wider _ allowed) located bytes

theorem Within.of_locate (within : effect.Within files cwd may)
    (same : ∀ path spot, files.locate cwd path = .ok spot → other.locate cwd path = .ok spot) :
    effect.Within other cwd may := by
  cases within with
  | request request => exact .request request
  | print bytes => exact .print bytes
  | create allowed => exact .create allowed
  | store allowed located bytes => exact .store allowed (same _ _ located) bytes

/-- The places to which some paths lead. -/
def PlaceOf (files : Files) (cwd : Place) (may : Path → Prop) (place : Place) : Prop :=
  ∃ path, may path ∧ files.locate cwd path = .ok ⟨place, false⟩

theorem replay_edits (within : effect.Within files cwd may)
    (edits : files.Edits (PlaceOf files cwd may) other) :
    files.Edits (PlaceOf files cwd may) (effect.replay cwd other) := by
  cases within with
  | request request => exact edits
  | print bytes => exact edits
  | @create path allowed =>
    cases created : other.create cwd path with
    | error e => simpa only [replay, created] using edits
    | ok made =>
      obtain ⟨place, after⟩ := made
      obtain ⟨located, -, -⟩ := Files.create_eq_ok created
      simp only [replay, created]
      refine edits.trans ((Files.create_edits created).mono ?_)
      rintro _ rfl
      -- Edits so far have not moved the place that the path leads to.
      exact ⟨path, allowed, edits.locate_iff.1 located⟩
  | @store path place allowed located bytes =>
    refine edits.trans ((Files.store_edits other place bytes).mono ?_)
    rintro _ rfl
    exact ⟨path, allowed, located⟩

end Effect

theorem History.replay_edits {files other : Files} {cwd : Place} {may : Path → Prop}
    {done : History} (within : ∀ effect ∈ done, effect.Within files cwd may)
    (edits : files.Edits (Effect.PlaceOf files cwd may) other) :
    files.Edits (Effect.PlaceOf files cwd may) (done.replay cwd other) := by
  induction done generalizing other with
  | nil => exact edits
  | cons effect done ih =>
    rw [List.forall_mem_cons] at within
    exact ih within.2 (Effect.replay_edits within.1 edits)

/-- Work on a site that was confined to the files of some paths. -/
def Site.Confined {σ : Type} (may : Path → Prop) (before after : Site σ) : Prop :=
  ∃ done, Did before done after ∧ ∀ effect ∈ done, effect.Within before.files before.cwd may

namespace Site.Confined

variable {σ : Type} {may : Path → Prop} {a b c : Site σ}

theorem refl (may : Path → Prop) (site : Site σ) : Confined may site site := ⟨[], .refl site, nofun⟩

theorem log (confined : Confined may a b) (event : Event) : Confined may a (b.log event) := by
  obtain ⟨done, did, within⟩ := confined
  exact ⟨done, did.log event, within⟩

theorem step (confined : Confined may a b) {effect : Effect} (did : Did b [effect] c)
    (within : effect.Within a.files a.cwd may) : Confined may a c := by
  obtain ⟨done, earlier, confined⟩ := confined
  refine ⟨done ++ [effect], earlier.trans did, fun other member => ?_⟩
  rcases List.mem_append.1 member with early | last
  · exact confined other early
  · exact List.mem_singleton.1 last ▸ within

theorem edits (confined : Confined may a b) :
    a.files.Edits (Effect.PlaceOf a.files a.cwd may) b.files := by
  obtain ⟨done, did, within⟩ := confined
  rw [did.files]
  exact History.replay_edits within (.refl _ a.files)

end Site.Confined

/-! ## Stopping -/

/-- As much of an effect as may have been done when it was stopped: bytes go one after the
other. -/
inductive Effect.Begun : Effect → Effect → Prop where
  | store (place : Place) {part bytes : Bytes} (front : part <+: bytes) :
      Begun (.store place bytes) (.store place part)
  | print {part bytes : Bytes} (front : part <+: bytes) : Begun (.print bytes) (.print part)

namespace History

/-- What was done of a history when it was stopped, between two effects or within one. -/
inductive Stopped (whole : History) : History → Prop where
  | between {front : History} (behind : front <+: whole) : Stopped whole front
  | within {front : History} {effect begun : Effect} (behind : front ++ [effect] <+: whole)
      (started : effect.Begun begun) : Stopped whole (front ++ [begun])

variable {whole part a b : History}

/-- Of two histories the second was stopped, or the first. -/
theorem Stopped.of_append (stopped : Stopped (a ++ b) part) :
    Stopped a part ∨ ∃ rest, Stopped b rest ∧ part = a ++ rest := by
  have front : a <+: a ++ b := List.prefix_append a b
  cases stopped with
  | between behind =>
    rcases List.prefix_or_prefix_of_prefix behind front with early | ⟨rest, rfl⟩
    · exact .inl (.between early)
    · exact .inr ⟨rest, .between ((List.prefix_append_right_inj a).1 behind), rfl⟩
  | @within before effect begun behind started =>
    rcases List.prefix_or_prefix_of_prefix behind front with early | ⟨rest, same⟩
    · exact .inl (.within early started)
    · rcases List.eq_nil_or_concat rest with rfl | ⟨rest, last, rfl⟩
      · rw [List.append_nil] at same
        exact .inl (.within (same ▸ List.prefix_refl _) started)
      · rw [List.concat_eq_append, ← List.append_assoc] at same
        obtain ⟨rfl, ⟨⟩⟩ := List.append_inj' same rfl
        rw [List.append_assoc] at behind ⊢
        exact .inr ⟨_, .within ((List.prefix_append_right_inj a).1 behind) started, rfl⟩

theorem Stopped.forall_within {files : Files} {cwd : Place} {may : Path → Prop}
    (stopped : Stopped whole part) (within : ∀ effect ∈ whole, effect.Within files cwd may) :
    ∀ effect ∈ part, effect.Within files cwd may := by
  cases stopped with
  | between behind => exact fun effect member => within effect (behind.subset member)
  | @within front effect begun behind started =>
    intro other member
    rcases List.mem_append.1 member with early | last
    · exact within other (behind.subset (List.mem_append_left _ early))
    · rw [List.mem_singleton.1 last]
      have whole := within effect (behind.subset (by simp))
      cases started with
      | print => exact .print _
      | store =>
        cases whole with
        | store allowed located => exact .store allowed located _

theorem Stopped.prints (stopped : Stopped whole part) (prints : whole.Prints) : part.Prints := by
  cases stopped with
  | between behind => exact fun effect member => prints effect (behind.subset member)
  | @within front effect begun behind started =>
    intro other member
    rcases List.mem_append.1 member with early | last
    · exact prints other (behind.subset (List.mem_append_left _ early))
    · obtain ⟨bytes, rfl⟩ := prints effect (behind.subset (by simp))
      rw [List.mem_singleton.1 last]
      cases started with
      | print => exact ⟨_, rfl⟩

theorem Stopped.requests (stopped : Stopped whole part) : part.requests <+: whole.requests := by
  cases stopped with
  | between behind => exact behind.filterMap _
  | @within front effect begun behind started =>
    have none : effect.request? = none ∧ begun.request? = none := by
      cases started <;> exact ⟨rfl, rfl⟩
    have requests := behind.filterMap Effect.request?
    simpa [History.requests, none] using requests

theorem Stopped.progress (stopped : Stopped whole part) : part.progress <+: whole.progress := by
  cases stopped with
  | between behind => exact behind.flatMap _
  | @within front effect begun behind started =>
    have shorter : begun.printed <+: effect.printed := by
      cases started with
      | store => exact List.prefix_refl _
      | print front => exact front
    have progress := behind.flatMap Effect.printed
    refine List.IsPrefix.trans ?_ progress
    simpa [History.progress] using shorter

end History

end VectorFetch

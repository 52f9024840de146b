import VectorFetch.Proofs.Batch.Fetch
import VectorFetch.Proofs.Batch.Loop

/-!
# Runs

* `Batch.before`, `Batch.attempt`, `Batch.stop`: fetch after fetch, with nothing announced.
* `Batch.transcript`: what is announced.
* `Outcome`, `run_outcome`: a run is these fetches up to the first failure, or up to the first
  announcement that is not accepted.
* `Sequential`, `run_sequential`: a run whose announcements are all accepted.
* `Limited`, `run_limited`: a run with room for so many bytes of progress.
-/

namespace VectorFetch.Batch

open Site

variable {σ : Type}

section Fetches

variable (net : Network σ) (batch : Batch) (site : Site σ)

/-- The site before the fetch of a key, behind those of all earlier keys. -/
def before : Nat → Site σ
  | 0 => site
  | k + 1 => (batch.fetchOne net (.ofNat k) (before k)).2

/-- What the fetch of a key gives behind those of all earlier keys. -/
def attempt (k : Nat) : Except FetchError Path :=
  (batch.fetchOne net (.ofNat k) (batch.before net site k)).1

/-- The first key whose fetch fails, or the number of keys. -/
def stop : Nat := (List.range Key.count).findIdx fun k => !(batch.attempt net site k).isOk

/-- The requests of the fetch of a key. -/
def requestsOf (k : Nat) : List Http.Request :=
  (batch.before net site (k + 1)).requests.drop (batch.before net site k).requests.length

end Fetches

def line (text : String) : Bytes := Utf8.encode (text ++ "\n")

/-- What is announced before the fetch of a key. -/
def transcript (k : Nat) : Bytes :=
  line keyList ++ (List.range k).flatMap fun i => line ("Got " ++ (Key.ofNat i).text)

variable {net : Network σ} {batch : Batch} {site : Site σ}

/-! ## Fetch after fetch -/

theorem fetchOne_before (k : Nat) : batch.fetchOne net (.ofNat k) (batch.before net site k) =
    (batch.attempt net site k, batch.before net site (k + 1)) := by
  rw [attempt, before]

theorem stop_le : batch.stop net site ≤ Key.count := by
  unfold stop
  exact Nat.le_trans List.findIdx_le_length (Nat.le_of_eq List.length_range)

theorem attempt_of_lt_stop {k : Nat} (early : k < batch.stop net site) :
    batch.attempt net site k = .ok (batch.artifactPath (.ofNat k)) := by
  have good := List.not_of_lt_findIdx early
  simp only [List.getElem_range, Bool.not_eq_false'] at good
  cases fetched : batch.attempt net site k with
  | error e =>
    rw [fetched] at good
    cases good
  | ok path => rw [(keeps_of_fetchOne fetched).1]

theorem attempt_stop (stops : batch.stop net site < Key.count) :
    ∃ e, batch.attempt net site (batch.stop net site) = .error e := by
  have bad : !(batch.attempt net site (batch.stop net site)).isOk := by
    have found := List.findIdx_getElem (p := fun k => !(batch.attempt net site k).isOk)
      (w := by rwa [List.length_range])
    rwa [List.getElem_range] at found
  cases failed : batch.attempt net site (batch.stop net site) with
  | error e => exact ⟨e, rfl⟩
  | ok path =>
    rw [failed] at bad
    cases bad

theorem stop_eq_of_error {k : Nat} {e : FetchError} (reached : k ≤ batch.stop net site)
    (failed : batch.attempt net site k = .error e) : batch.stop net site = k := by
  refine Nat.le_antisymm (Nat.le_of_not_lt fun early => ?_) reached
  rw [attempt_of_lt_stop early] at failed
  cases failed

theorem lt_stop_of_ok {k : Nat} {path : Path} (reached : k ≤ batch.stop net site)
    (within : k < Key.count) (fetched : batch.attempt net site k = .ok path) :
    k < batch.stop net site := by
  refine Nat.lt_of_le_of_ne reached ?_
  rintro rfl
  obtain ⟨e, failed⟩ := attempt_stop within
  rw [failed] at fetched
  cases fetched

/-! ## Alike sites -/

theorem before_alike {a b : Site σ} (alike : Alike a b) (k : Nat) :
    Alike (batch.before net a k) (batch.before net b k) := by
  induction k with
  | zero => exact alike
  | succ k ih => exact (fetchOne_same net batch (.ofNat k) ih).alike

theorem attempt_of_alike (net : Network σ) (batch : Batch) {a b : Site σ} (alike : Alike a b) :
    batch.attempt net a = batch.attempt net b := by
  funext k
  exact (fetchOne_same net batch (.ofNat k) (before_alike alike k)).answer

theorem stop_of_alike (net : Network σ) (batch : Batch) {a b : Site σ} (alike : Alike a b) :
    batch.stop net a = batch.stop net b := by
  rw [stop, stop, attempt_of_alike net batch alike]

/-! ## Requests and files -/

variable (net batch site)

theorem before_worked (k : Nat) : Worked (Key.ofNat k).fileName (batch.before net site k)
    (batch.before net site (k + 1)) :=
  fetchOne_worked net batch (.ofNat k) (batch.before net site k)

theorem cwd_before (k : Nat) : (batch.before net site k).cwd = site.cwd := by
  induction k with
  | zero => rfl
  | succ k ih => exact (before_worked net batch site k).cwd.trans ih

theorem requests_before (k : Nat) : (batch.before net site k).requests =
    site.requests ++ (List.range k).flatMap (batch.requestsOf net site) := by
  induction k with
  | zero => simp [before]
  | succ k ih =>
    obtain ⟨own, added⟩ := (before_worked net batch site k).requests
    have last : batch.requestsOf net site k = own := by simp [requestsOf, ← added]
    rw [← added, ih, List.range_succ, List.flatMap_append, List.flatMap_singleton, last,
      List.append_assoc]

theorem requestsOf_cases (k : Nat) : batch.requestsOf net site k = [] ∨ ∃ url address redirects,
    batch.source.resource (.ofNat k) = .ok url ∧ Http.Address.ofText url.text = .ok address ∧
    batch.requestsOf net site k = ⟨address⟩ :: redirects := by
  obtain none | ⟨url, address, found, spelled, redirects, sent⟩ :=
    fetchOne_requests net batch (.ofNat k) (batch.before net site k)
  · left
    rw [requestsOf, before, none]
    simp
  · right
    refine ⟨url, address, redirects, found, spelled, ?_⟩
    rw [requestsOf, before, ← sent]
    simp

theorem locate_before (k : Nat) {path : Path} {spot : Files.Spot} :
    (batch.before net site k).files.locate site.cwd path = .ok spot ↔
      site.files.locate site.cwd path = .ok spot := by
  induction k with
  | zero => rfl
  | succ k ih => exact (before_worked net batch site k).files.locate_iff.trans ih

theorem device_before (k : Nat) {place : Place}
    (kept : (batch.before net site k).files.node? place = some .discard) :
    site.files.node? place = some .discard := by
  induction k with
  | zero => exact kept
  | succ k ih => exact ih ((before_worked net batch site k).files.devices place kept)

variable {net batch site}

theorem fileName_ne {i k : Nat} (early : i < k) (within : k < Key.count) :
    (Key.ofNat i).fileName ≠ (Key.ofNat k).fileName := by
  intro same
  have index := congrArg Key.index (Key.fileName_injective same)
  rw [Key.index_ofNat (Nat.lt_trans early within), Key.index_ofNat within] at index
  omega

theorem nodup_artifactPath (batch : Batch) : (Key.all.map batch.artifactPath).Nodup := by
  rw [Key.all, List.map_map, List.Nodup, List.pairwise_map]
  refine List.pairwise_lt_range.imp_of_mem fun {i k} _ within early same => ?_
  have names := Path.join_injective (Key.isName_fileName _) (Key.isName_fileName _) same
  exact fileName_ne early (List.mem_range.1 within) names

/-- What was written for a key is there still when more files have been fetched. -/
theorem holds_before {k n : Nat} {dir : Place} {bytes : Bytes}
    (holds : (batch.before net site (k + 1)).files.Holds (dir ++ [(Key.ofNat k).fileName]) bytes)
    (later : k < n) (within : n ≤ Key.count) :
    (batch.before net site n).files.Holds (dir ++ [(Key.ofNat k).fileName]) bytes := by
  induction n with
  | zero => omega
  | succ n ih =>
    by_cases last : k = n
    · exact last ▸ holds
    · -- The fetch of another key works on files of another name.
      have earlier : k < n := by omega
      refine .of_touches (before_worked net batch site n).files ?_ (ih earlier (by omega))
      intro other same
      have names := List.append_inj_right' same rfl
      exact fileName_ne earlier (by omega) (List.singleton_inj.1 names)

/-- The file of a key that was fetched has the document of what its own body is read as. -/
theorem keeps_before {k n : Nat} (fetched : k < batch.stop net site) (later : k < n)
    (within : n ≤ Key.count) :
    ∃ body value, batch.body? net (.ofNat k) (batch.before net site k) = some body ∧
      Json.parse body = .ok value ∧
      site.files.Keeps (batch.before net site n).files site.cwd (batch.artifactPath (.ofNat k))
        (Utf8.encode value.pretty) := by
  obtain ⟨-, body, value, dir, answered, accepted, located, holds⟩ :=
    keeps_of_fetchOne (attempt_of_lt_stop fetched)
  -- The path leads to the same place before, right behind its own fetch, and in the end.
  rw [cwd_before net batch site k, fetchOne_before, locate_before net batch site (k + 1)] at located
  refine ⟨body, value, answered, accepted, ?_⟩
  exact .of_holds located ((locate_before net batch site n).2 located) (device_before net batch site n)
    (holds_before holds later within)

/-! ## Announcements -/

theorem flatten_keyListPieces : keyListPieces.flatten = transcript 0 := by
  simp [keyListPieces, linePieces, transcript, line, Utf8.encode]

theorem transcript_succ (k : Nat) :
    transcript (k + 1) = transcript k ++ (gotPieces (.ofNat k)).flatten := by
  simp [transcript, List.range_succ, gotPieces, linePieces, line, Utf8.encode]

theorem transcript_ne_nil (k : Nat) : transcript k ≠ [] := by
  simp [transcript, line, Utf8.encode]

theorem transcript_mono {i k : Nat} (le : i ≤ k) : transcript i <+: transcript k := by
  induction le with
  | refl => exact List.prefix_refl _
  | step _ ih =>
    rw [transcript_succ]
    exact ih.trans (List.prefix_append _ _)

/-! ## Outcomes -/

/-- What a run answers whose announcements are accepted. -/
inductive Verdict (net : Network σ) (batch : Batch) (site : Site σ) :
    Except BatchError (List Path) → Prop where
  | failed {e : FetchError} (stops : batch.stop net site < Key.count)
      (fails : batch.attempt net site (batch.stop net site) = .error e) :
      Verdict net batch site (.error (.key ⟨.ofNat (batch.stop net site), e⟩))
  | complete (all : batch.stop net site = Key.count) :
      Verdict net batch site (.ok (Key.all.map batch.artifactPath))

/-- How many keys are fetched when no announcement is refused: one more than those before the
first failure. -/
def fetches (net : Network σ) (batch : Batch) (site : Site σ) : Nat :=
  min (batch.stop net site + 1) Key.count

/-- How a run may end: with the verdict, or at the first announcement that is not accepted. -/
inductive Outcome (net : Network σ) (batch : Batch) (site : Site σ) :
    Except BatchError (List Path) × Site σ → Prop where
  | heard {answer : Except BatchError (List Path)} {after : Site σ}
      (verdict : Verdict net batch site answer)
      (alike : Alike after (batch.before net site (batch.fetches net site)))
      (accepted : site.progress.takeAll (transcript (batch.stop net site)) =
        (.ok (), after.progress)) :
      Outcome net batch site (answer, after)
  | unannounced {e : IoError} {after : Site σ} (alike : Alike after site)
      (refused : site.progress.takeAll (transcript 0) = (.error e, after.progress)) :
      Outcome net batch site (.error (.output e), after)
  | unheard {k : Nat} {e : IoError} {after : Site σ} (fetched : k < batch.stop net site)
      (alike : Alike after (batch.before net site (k + 1)))
      (accepted : (site.progress.takeAll (transcript k)).1 = .ok ())
      (refused : site.progress.takeAll (transcript (k + 1)) = (.error e, after.progress)) :
      Outcome net batch site (.error (.output e), after)

/-- Announcing one more file takes progress from one transcript to the next. -/
theorem takeAll_transcript_succ {sink after : Sink} (calls : sink.perCall ≠ some 0) {k : Nat}
    (accepted : sink.takeAll (transcript k) = (.ok (), after)) :
    after.takeAll (gotPieces (.ofNat k)).flatten = sink.takeAll (transcript (k + 1)) := by
  rw [transcript_succ, Sink.takeAll_append calls, accepted]

theorem artifactPaths_succ (batch : Batch) (k : Nat) :
    (List.range (k + 1)).map (fun i => batch.artifactPath (.ofNat i)) =
      (List.range k).map (fun i => batch.artifactPath (.ofNat i)) ++
        [batch.artifactPath (.ofNat k)] := by
  rw [List.range_succ, List.map_append, List.map_singleton]

theorem Outcome.all {here : Site σ} (reached : Key.count ≤ batch.stop net site)
    (alike : Alike here (batch.before net site Key.count))
    (accepted : site.progress.takeAll (transcript Key.count) = (.ok (), here.progress)) :
    Outcome net batch site
      (.ok ((List.range Key.count).map fun i => batch.artifactPath (.ofNat i)), here) := by
  have all : batch.stop net site = Key.count := Nat.le_antisymm stop_le reached
  have paths : (List.range Key.count).map (fun i => batch.artifactPath (.ofNat i)) =
      Key.all.map batch.artifactPath := by
    rw [Key.all, List.map_map]
    rfl
  rw [paths]
  refine .heard (.complete all) ?_ (by rwa [all])
  simpa [fetches, all] using alike

/-- The fetch of a key failed behind the announcements of those before. It is among the fetches
that count, but its key is not announced. -/
theorem Outcome.last {after : Site σ} {e : FetchError} {k : Nat} (within : k < Key.count)
    (reached : k ≤ batch.stop net site) (failed : batch.attempt net site k = .error e)
    (alike : Alike after (batch.before net site (k + 1)))
    (accepted : site.progress.takeAll (transcript k) = (.ok (), after.progress)) :
    Outcome net batch site (.error (.key ⟨.ofNat k, e⟩), after) := by
  obtain rfl : batch.stop net site = k := stop_eq_of_error reached failed
  refine .heard (.failed within failed) ?_ accepted
  rwa [fetches, Nat.min_eq_left within]

/-- The keys from `k` on, behind the fetches of those before. -/
theorem fetchAll_outcome (calls : site.progress.perCall ≠ some 0) (left k : Nat)
    (total : k + left = Key.count) (reached : k ≤ batch.stop net site) {here : Site σ}
    (alike : Alike here (batch.before net site k))
    (accepted : site.progress.takeAll (transcript k) = (.ok (), here.progress)) :
    Outcome net batch site
      (batch.fetchAll net ((List.range k).map fun i => batch.artifactPath (.ofNat i))
        ((List.range' k left).map Key.ofNat) here) := by
  -- By induction on how many keys are left. `here` is like the site before key `k`, and its
  -- progress is that of the transcript so far.
  induction left generalizing k here with
  | zero =>
    obtain rfl : k = Key.count := total
    exact .all reached alike accepted
  | succ left ih =>
    have within : k < Key.count := by omega
    have worked := fetchOne_worked net batch (.ofNat k) here
    have same := fetchOne_same net batch (.ofNat k) alike
    rw [fetchOne_before] at same
    rw [List.range'_succ, List.map_cons, fetchAll]
    generalize batch.fetchOne net (.ofNat k) here = ended at same worked ⊢
    cases fetched : batch.attempt net site k with
    | error e =>
      rw [fetched] at same
      cases same with
      | @error _ after _ alike =>
        have progress : after.progress = here.progress := worked.progress
        refine .last within reached fetched (alike.log _) ?_
        rw [accepted]
        exact congrArg _ progress.symm
    | ok path =>
      have early := lt_stop_of_ok reached within fetched
      obtain rfl : path = batch.artifactPath (.ofNat k) := by
        simpa [attempt_of_lt_stop early] using fetched.symm
      rw [fetched] at same
      cases same with
      | @ok _ after _ alike =>
        have progress : after.progress = here.progress := worked.progress
        have callsOn : after.progress.perCall ≠ some 0 := by
          have kept := Sink.perCall_takeAll calls (transcript k)
          rw [accepted] at kept
          rwa [progress, kept]
        obtain ⟨answered, took, quiet⟩ := printAll_eq callsOn (gotPieces (.ofNat k))
        -- Seen from the site of the start, the line is the end of the next transcript.
        rw [progress, takeAll_transcript_succ calls accepted] at answered took
        dsimp only
        generalize after.printAll (gotPieces (.ofNat k)) = result at answered took quiet ⊢
        obtain ⟨e | _, announced⟩ := result
        · exact .unheard early (quiet.trans alike) (by rw [accepted])
            (Prod.ext answered.symm took.symm)
        · dsimp only
          rw [← artifactPaths_succ]
          exact ih (k + 1) (by omega) early ((quiet.trans alike).log _)
            (Prod.ext answered.symm took.symm)

theorem Outcome.log {answer : Except BatchError (List Path)} {after : Site σ} (event : Event)
    (outcome : Outcome net batch site (answer, after)) :
    Outcome net batch site (answer, after.log event) := by
  cases outcome with
  | heard verdict alike accepted => exact .heard verdict (alike.log event) accepted
  | unannounced alike refused => exact .unannounced (alike.log event) refused
  | unheard fetched alike accepted refused =>
    exact .unheard fetched (alike.log event) accepted refused

/-- A run over any announcement that says what a transcript begins with. -/
theorem runOver_outcome (net : Network σ) (batch : Batch) {site : Site σ}
    (calls : site.progress.perCall ≠ some 0)
    {announcement : List Bytes} (opening : announcement.flatten = transcript 0) :
    Outcome net batch site
      (batch.runOver net announcement ((List.range' 0 Key.count).map Key.ofNat) site) := by
  obtain ⟨answered, took, quiet⟩ := printAll_eq calls announcement
  rw [opening] at answered took
  unfold runOver
  generalize site.printAll announcement = result at answered took quiet ⊢
  obtain ⟨e | _, announced⟩ := result
  · exact .unannounced quiet (Prod.ext answered.symm took.symm)
  · have begun : Alike
        (announced.log (.startingBatch batch.source.base.text batch.outDir Key.count))
        (batch.before net site 0) := quiet.log _
    have fetched := fetchAll_outcome calls Key.count 0 (Nat.zero_add _) (Nat.zero_le _) begun
      (Prod.ext answered.symm took.symm)
    -- Without a name for the keys the list of all of them would be unfolded here.
    generalize (List.range' 0 Key.count).map Key.ofNat = keys at fetched ⊢
    rw [List.range_zero, List.map_nil] at fetched
    dsimp only
    split
    next e after ended => rwa [ended] at fetched
    next written after ended =>
      rw [ended] at fetched
      exact fetched.log _

/-- A run is fetch after fetch, up to the first failure or the first announcement that is not
accepted. -/
theorem run_outcome (net : Network σ) (batch : Batch) {site : Site σ}
    (calls : site.progress.perCall ≠ some 0) : Outcome net batch site (batch.run net site) := by
  have outcome := runOver_outcome net batch calls flatten_keyListPieces
  rwa [← List.range_eq_range'] at outcome

/-! ## Runs that are heard -/

theorem accepted_of_le {sink : Sink} (calls : sink.perCall ≠ some 0) {i k : Nat} (le : i ≤ k)
    (accepted : (sink.takeAll (transcript k)).1 = .ok ()) :
    (sink.takeAll (transcript i)).1 = .ok () := by
  obtain ⟨rest, whole⟩ := transcript_mono le
  rw [← whole, Sink.takeAll_append calls] at accepted
  generalize sink.takeAll (transcript i) = result at accepted ⊢
  obtain ⟨_ | _, after⟩ := result
  · cases accepted
  · rfl

/-- A run of which all is heard ends with the verdict. -/
theorem Outcome.verdict {ended : Except BatchError (List Path) × Site σ}
    (outcome : Outcome net batch site ended) (calls : site.progress.perCall ≠ some 0)
    (accepted : (site.progress.takeAll (transcript (batch.stop net site))).1 = .ok ()) :
    Verdict net batch site ended.1 ∧
      Alike ended.2 (batch.before net site (batch.fetches net site)) ∧
      ended.2.progress = (site.progress.takeAll (transcript (batch.stop net site))).2 := by
  cases outcome with
  | heard verdict alike taken => exact ⟨verdict, alike, by rw [taken]⟩
  -- A refusal would be one of a part of what was accepted.
  | unannounced alike refused =>
    have heard := accepted_of_le calls (Nat.zero_le _) accepted
    rw [refused] at heard
    cases heard
  | unheard fetched alike _ refused =>
    have heard := accepted_of_le calls fetched accepted
    rw [refused] at heard
    cases heard

theorem Verdict.unique {x y : Except BatchError (List Path)} (first : Verdict net batch site x)
    (second : Verdict net batch site y) : x = y := by
  cases first with
  | failed stops fails =>
    cases second with
    | failed _ fails' =>
      rw [fails] at fails'
      cases fails'
      rfl
    | complete all => omega
  | complete all =>
    cases second with
    | failed stops _ => omega
    | complete _ => rfl

theorem Verdict.of_alike {a b : Site σ} (alike : Alike a b)
    {answer : Except BatchError (List Path)} (verdict : Verdict net batch a answer) :
    Verdict net batch b answer := by
  have attempts := attempt_of_alike net batch alike
  have stops := stop_of_alike net batch alike
  cases verdict with
  | failed within fails =>
    rw [stops] at within
    rw [stops, attempts] at fails
    rw [stops]
    exact .failed within fails
  | complete all => exact .complete (stops ▸ all)

theorem verdict_of_room (net : Network σ) (batch : Batch) {site : Site σ}
    (room : site.progress.room = none) (calls : site.progress.perCall ≠ some 0) :
    Verdict net batch site (batch.run net site).1 ∧
      Alike (batch.run net site).2 (batch.before net site (batch.fetches net site)) := by
  have accepted := Sink.takeAll_of_room room calls (transcript (batch.stop net site))
  obtain ⟨verdict, alike, -⟩ := (run_outcome net batch calls).verdict calls (by rw [accepted])
  exact ⟨verdict, alike⟩

/-- The verdict is what a run without limit answers. -/
theorem Verdict.run_of_alike {answer : Except BatchError (List Path)} {free : Site σ}
    (verdict : Verdict net batch site answer) (alike : Alike free site)
    (room : free.progress.room = none) (calls : free.progress.perCall ≠ some 0) :
    answer = (batch.run net free).1 ∧
      Alike (batch.before net site (batch.fetches net site)) (batch.run net free).2 := by
  obtain ⟨freeVerdict, freeAlike⟩ := verdict_of_room net batch room calls
  refine ⟨verdict.unique (freeVerdict.of_alike alike), .symm (freeAlike.trans ?_)⟩
  rw [fetches, fetches, stop_of_alike net batch alike]
  exact before_alike alike _

/-- A run that is fetch after fetch in the order of the keys, up to the first failure. -/
structure Sequential (net : Network σ) (batch : Batch) (site : Site σ)
    (ended : Except BatchError (List Path) × Site σ) : Prop where
  fetched : ∀ k < batch.stop net site,
    batch.attempt net site k = .ok (batch.artifactPath (.ofNat k))
  failed : batch.stop net site < Key.count →
    ∃ e, batch.attempt net site (batch.stop net site) = .error e ∧
      ended.1 = .error (.key ⟨.ofNat (batch.stop net site), e⟩)
  complete : Key.count ≤ batch.stop net site →
    ended.1 = .ok (Key.all.map batch.artifactPath) ∧ (Key.all.map batch.artifactPath).Nodup
  /-- No key behind the first failure is requested. -/
  requests : ended.2.requests =
    site.requests ++ (List.range (batch.fetches net site)).flatMap (batch.requestsOf net site)
  /-- The requests of a key are for its URL and for what that redirects to. -/
  own : ∀ k, batch.requestsOf net site k = [] ∨ ∃ url address redirects,
    batch.source.resource (.ofNat k) = .ok url ∧ Http.Address.ofText url.text = .ok address ∧
    batch.requestsOf net site k = ⟨address⟩ :: redirects
  files : ended.2.files = (batch.before net site (batch.fetches net site)).files
  server : ended.2.server = (batch.before net site (batch.fetches net site)).server
  /-- What is announced are the files before the first failure. -/
  taken : ended.2.progress.taken =
    site.progress.taken ++ transcript (batch.stop net site)
  /-- Each of these files has what its own body is read as. -/
  kept : ∀ k < batch.stop net site, ∃ body value,
    batch.body? net (.ofNat k) (batch.before net site k) = some body ∧
    Json.parse body = .ok value ∧
    site.files.Keeps ended.2.files site.cwd (batch.artifactPath (.ofNat k))
      (Utf8.encode value.pretty)

theorem Outcome.sequential {ended : Except BatchError (List Path) × Site σ}
    (outcome : Outcome net batch site ended) (calls : site.progress.perCall ≠ some 0)
    (accepted : site.progress.takeAll (transcript (batch.stop net site)) =
      (.ok (), site.progress.accept (transcript (batch.stop net site)))) :
    Sequential net batch site ended := by
  obtain ⟨verdict, alike, progress⟩ := outcome.verdict calls (by rw [accepted])
  obtain ⟨answer, after⟩ := ended
  have le : batch.stop net site ≤ Key.count := stop_le
  refine {
    fetched := fun k early => attempt_of_lt_stop early
    failed := fun stops => ?_
    complete := fun all =>
      ⟨verdict.unique (.complete (Nat.le_antisymm le all)), nodup_artifactPath batch⟩
    requests := alike.requests.trans (requests_before net batch site _)
    own := requestsOf_cases net batch site
    files := alike.files
    server := alike.server
    taken := by rw [progress, accepted]; rfl
    kept := fun k early => ?_ }
  · -- The verdict is the only one, so that it says which failure this is.
    obtain ⟨e, fails⟩ := attempt_stop stops
    exact ⟨e, fails, verdict.unique (.failed stops fails)⟩
  · rw [alike.files]
    refine keeps_before early ?_ ?_
    · rw [fetches]
      omega
    · exact Nat.min_le_right _ _

/-- A run whose progress is accepted in full fetches file after file in the order of the keys,
up to the first failure, and announces those before it. -/
theorem run_sequential (net : Network σ) (batch : Batch) {site : Site σ}
    (room : site.progress.room = none) (calls : site.progress.perCall ≠ some 0) :
    Sequential net batch site (batch.run net site) := by
  exact (run_outcome net batch calls).sequential calls (Sink.takeAll_of_room room calls _)

/-- The replies are documents up to the third request. -/
theorem run_sequential_of_third_missing :
    let net : Network Nat := ⟨fun _ => none, fun n _ =>
      (.message (if n < 2 then 200 else 404) [] (Utf8.encode "[1E2]"), n + 1), fun _ _ _ => none⟩
    let batch : Batch := ⟨.fixed, ⟨"/out"⟩, .default⟩
    let site : Site Nat := .start ⟨[(["out"], .directory)], []⟩ [] 0 .unlimited
    batch.stop net site = 2 ∧ Sequential net batch site (batch.run net site) := by
  intro net batch site
  have room : site.progress.room = none := rfl
  have calls : site.progress.perCall ≠ some 0 := by decide
  exact ⟨by decide +kernel, run_sequential net batch room calls⟩

/-! ## Runs with room for so much -/

theorem length_transcript_le {i k : Nat} (le : i ≤ k) :
    (transcript i).length ≤ (transcript k).length :=
  (transcript_mono le).length_le

theorem take_transcript {i k room : Nat} (le : i ≤ k) (short : room < (transcript i).length) :
    (transcript i).take room = (transcript k).take room := by
  obtain ⟨rest, whole⟩ := transcript_mono le
  rw [← whole, List.take_append_of_le_length (Nat.le_of_lt short)]

/-- A run whose progress goes to a sink with room for so many bytes. -/
structure Limited (net : Network σ) (batch : Batch) (site : Site σ) (room : Nat)
    (ended : Except BatchError (List Path) × Site σ) : Prop where
  /-- With room for all of the progress the run ends like one without a limit. -/
  enough : (transcript (batch.stop net site)).length ≤ room →
    let free := batch.run net { site with progress := .unlimited }
    ended.1 = free.1 ∧ Alike ended.2 free.2 ∧
      ended.2.progress.taken = site.progress.taken ++ transcript (batch.stop net site)
  /-- With less room it fails, and the sink holds as much as fits. -/
  short : room < (transcript (batch.stop net site)).length →
    ended.1 = .error (.output site.progress.shortage) ∧
      ended.2.progress.taken =
        site.progress.taken ++ (transcript (batch.stop net site)).take room
  /-- Without room for the list of keys nothing is done. -/
  unannounced : room < (transcript 0).length →
    ended.2.requests = site.requests ∧ ended.2.files = site.files
  /-- Otherwise the last key that is fetched is the first one whose line does not fit. -/
  unheard : (transcript 0).length ≤ room → room < (transcript (batch.stop net site)).length →
    ∃ j < batch.stop net site, room < (transcript (j + 1)).length ∧
      (∀ i < j, (transcript (i + 1)).length ≤ room) ∧
      ended.2.requests =
        site.requests ++ (List.range (j + 1)).flatMap (batch.requestsOf net site) ∧
      ended.2.files = (batch.before net site (j + 1)).files ∧
      ended.2.server = (batch.before net site (j + 1)).server ∧
      ∀ k ≤ j, ∃ body value,
        batch.body? net (.ofNat k) (batch.before net site k) = some body ∧
        Json.parse body = .ok value ∧
        site.files.Keeps ended.2.files site.cwd (batch.artifactPath (.ofNat k))
          (Utf8.encode value.pretty)

theorem Outcome.limited {room : Nat} {ended : Except BatchError (List Path) × Site σ}
    (outcome : Outcome net batch site ended) (limited : site.progress.room = some room)
    (calls : site.progress.perCall ≠ some 0) : Limited net batch site room ended := by
  have first := length_transcript_le (Nat.zero_le (batch.stop net site))
  cases outcome with
  | @heard answer after verdict alike accepted =>
    have fits : (transcript (batch.stop net site)).length ≤ room := by
      rw [← Sink.takeAll_fst_eq_ok limited calls, accepted]
    refine {
      enough := fun _ => ?_
      short := fun short => absurd fits (Nat.not_le_of_lt short)
      unannounced := fun short => absurd fits (by omega)
      unheard := fun _ short => absurd fits (Nat.not_le_of_lt short) }
    -- The verdict does not depend on progress, so the run without a limit has the same one.
    have alone : Alike { site with progress := .unlimited } site := ⟨rfl, rfl, rfl, rfl⟩
    obtain ⟨same, free⟩ := verdict.run_of_alike alone rfl nofun
    exact ⟨same, alike.trans free, congrArg Sink.taken (Sink.accept_of_takeAll calls accepted)⟩
  | @unannounced e after alike refused =>
    obtain ⟨short, rfl, taken⟩ := Sink.takeAll_eq_error limited calls refused
    exact {
      enough := fun fits => absurd fits (by omega)
      short := fun _ => ⟨rfl, by rw [taken, take_transcript (Nat.zero_le _) short]⟩
      unannounced := fun _ => ⟨alike.requests, alike.files⟩
      unheard := fun fits _ => absurd fits (by omega) }
  | @unheard j e after fetched alike accepted refused =>
    obtain ⟨short, rfl, taken⟩ := Sink.takeAll_eq_error limited calls refused
    have heard := (Sink.takeAll_fst_eq_ok limited calls).1 accepted
    have later : (transcript (j + 1)).length ≤ (transcript (batch.stop net site)).length :=
      length_transcript_le fetched
    have earlier := length_transcript_le (Nat.zero_le j)
    refine {
      enough := fun fits => absurd fits (by omega)
      short := fun _ => ⟨rfl, by rw [taken, take_transcript fetched short]⟩
      unannounced := fun none => absurd none (by omega)
      unheard := fun _ _ => ⟨j, fetched, short, fun i before => ?_, ?_, alike.files, alike.server,
        fun k le => ?_⟩ }
    · exact Nat.le_trans (length_transcript_le before) heard
    · exact alike.requests.trans (requests_before net batch site _)
    · have bound : batch.stop net site ≤ Key.count := stop_le
      rw [alike.files]
      exact keeps_before (by omega) (by omega) (by omega)

/-! ## Calls that take more or less -/

def withPerCall (sink : Sink) (perCall : Option Nat) : Sink := { sink with perCall }

@[simp] theorem taken_withPerCall (sink : Sink) (perCall : Option Nat) :
    (withPerCall sink perCall).taken = sink.taken := rfl

/-- The same but for how much the sink for progress takes in one call. -/
structure Paced (perCall : Option Nat) (a b : Site σ) : Prop where
  alike : Alike a b
  progress : b.progress = withPerCall a.progress perCall
  calls : a.progress.perCall ≠ some 0

variable {perCall : Option Nat} {a b : Site σ}

theorem printAll_paced (paced : Paced perCall a b) (calls : perCall ≠ some 0)
    (pieces : List Bytes) :
    InStep (Paced perCall) (a.printAll pieces) (b.printAll pieces) := by
  have callsB : b.progress.perCall ≠ some 0 := by rwa [paced.progress]
  have kept := Sink.perCall_takeAll paced.calls pieces.flatten
  obtain ⟨answered, took, quiet⟩ := printAll_eq paced.calls pieces
  obtain ⟨answered', took', quiet'⟩ := printAll_eq callsB pieces
  rw [Sink.takeAll_eq callsB] at answered' took'
  refine ⟨?_, (quiet.trans paced.alike).trans quiet'.symm, ?_, ?_⟩
  · rw [answered, answered', Sink.takeAll_eq paced.calls, paced.progress]
    rfl
  · rw [took, took', Sink.takeAll_eq paced.calls, paced.progress]
    rfl
  · rw [took, kept]
    exact paced.calls

theorem fetchOne_paced (net : Network σ) (batch : Batch) (key : Key) (paced : Paced perCall a b) :
    InStep (Paced perCall) (batch.fetchOne net key a) (batch.fetchOne net key b) := by
  have same := fetchOne_same net batch key paced.alike
  have progress := (fetchOne_worked net batch key a).progress
  have progress' := (fetchOne_worked net batch key b).progress
  refine ⟨same.answer, same.alike, ?_, ?_⟩
  · rw [progress, progress', paced.progress]
  · rw [progress]
    exact paced.calls

theorem Paced.log (paced : Paced perCall a b) (event : Event) :
    Paced perCall (a.log event) (b.log event) :=
  ⟨(paced.alike.log event).trans ((Alike.refl b).log event).symm, paced.progress, paced.calls⟩

theorem lockstep_paced (net : Network σ) (batch : Batch) (calls : perCall ≠ some 0) :
    Lockstep net batch (Paced perCall) where
  fetched key paced := fetchOne_paced net batch key paced
  printed pieces paced := printAll_paced paced calls pieces
  logged event paced := paced.log event

/-- How much the sink takes in one call makes no difference. -/
theorem runOver_paced (net : Network σ) (batch : Batch) (calls : perCall ≠ some 0)
    (paced : Paced perCall a b) (announcement : List Bytes) (keys : List Key) :
    InStep (Paced perCall) (batch.runOver net announcement keys a)
      (batch.runOver net announcement keys b) :=
  (lockstep_paced net batch calls).runOver announcement keys paced

/-- A run with room for so many bytes of progress ends as `Limited` says, and no other number
of bytes per call changes that. -/
theorem run_limited (net : Network σ) (batch : Batch) {site : Site σ} {room : Nat}
    (limited : site.progress.room = some room) (calls : site.progress.perCall ≠ some 0) :
    Limited net batch site room (batch.run net site) ∧
      ∀ perCall : Option Nat, perCall ≠ some 0 →
        let other := batch.run net { site with progress := withPerCall site.progress perCall }
        other.1 = (batch.run net site).1 ∧ Alike other.2 (batch.run net site).2 ∧
          other.2.progress.taken = (batch.run net site).2.progress.taken := by
  refine ⟨(run_outcome net batch calls).limited limited calls, fun perCall callsOther => ?_⟩
  have start : Paced perCall site { site with progress := withPerCall site.progress perCall } :=
    ⟨⟨rfl, rfl, rfl, rfl⟩, rfl, calls⟩
  obtain ⟨same, paced⟩ := runOver_paced net batch callsOther start keyListPieces Key.all
  unfold run
  refine ⟨same.symm, paced.alike.symm, ?_⟩
  rw [paced.progress, taken_withPerCall]

/-- The third fetch would fail, and the sink takes three bytes in a call. -/
theorem run_limited_of_third_missing :
    let net : Network Nat := ⟨fun _ => none, fun n _ =>
      (.message (if n < 2 then 200 else 404) [] (Utf8.encode "[1E2]"), n + 1), fun _ _ _ => none⟩
    let batch : Batch := ⟨.fixed, ⟨"/out"⟩, .default⟩
    let progress : Sink := ⟨some 1540, some 3, .failure ⟨.custom "closed", rfl⟩, []⟩
    let site : Site Nat := .start ⟨[(["out"], .directory)], []⟩ [] 0 progress
    batch.stop net site = 2 ∧
      Limited net batch site 1540 (batch.run net site) ∧
      ∀ perCall : Option Nat, perCall ≠ some 0 →
        let other := batch.run net { site with progress := withPerCall site.progress perCall }
        other.1 = (batch.run net site).1 ∧ Alike other.2 (batch.run net site).2 ∧
          other.2.progress.taken = (batch.run net site).2.progress.taken := by
  intro net batch progress site
  have limited : site.progress.room = some 1540 := rfl
  have calls : site.progress.perCall ≠ some 0 := by decide
  exact ⟨by decide +kernel, run_limited net batch limited calls⟩

end VectorFetch.Batch

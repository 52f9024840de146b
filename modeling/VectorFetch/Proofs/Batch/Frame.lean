import VectorFetch.Proofs.Batch.Run
import VectorFetch.Proofs.History

/-!
# What a run leaves alone

* `fetchOne_confined`: a fetch works on the file of its key alone.
* `Accepted`, `fetchOne_files`: it leaves that file alone too unless the body was received and read.
* `run_ends`: how a run may end, whatever the sink.
* `Framed`, `run_framed`: wherever a run stops, it has changed files of keys with an accepted body
  alone, and none behind the last key that it fetched.
-/

namespace VectorFetch

open Site

variable {σ : Type}

/-! ## Fetches -/

theorem Http.did_visit (net : Network σ) (site : Site σ) (address : Http.Address) :
    Did site [.request ⟨address⟩] (Http.visit net site address) where
  effects := rfl
  cwd := rfl
  files := rfl
  progress := by simp [Http.visit, record, History.progress, Effect.printed]

theorem Http.get_confined (may : Path → Prop) (net : Network σ) (options : Http.Options) (url : Url)
    (site : Site σ) : Confined may site (Http.get net options url site).2 := by
  apply Http.get_of_visits (P := Confined may site)
  · exact fun after address confined => confined.step (Http.did_visit net after address) (.request _)
  · exact fun after event confined => confined.log event
  · exact .refl may site

theorem Site.did_store (site : Site σ) (place : Place) (bytes : Bytes) :
    Did site [.store place bytes] (site.store place bytes).2 where
  effects := rfl
  cwd := rfl
  files := rfl
  progress := by simp [store, record, History.progress, Effect.printed]

theorem Artifact.write_confined {site asked : Site σ} {may : Path → Prop} {path : Path}
    (confined : Confined may site asked) (allowed : may path) (value : Json.Value) :
    Confined may site (Artifact.write path value asked).2 := by
  unfold Artifact.write
  cases created : asked.files.create asked.cwd path with
  | error e => simpa only [Site.create, created] using confined
  | ok made =>
    obtain ⟨place, files⟩ := made
    have did : Did asked [.create path] ({ asked with files }.record (.create path)) := {
      effects := rfl
      cwd := rfl
      files := by simp [record, History.replay, Effect.replay, created]
      progress := by simp [record, History.progress, Effect.printed] }
    have opened := confined.step did (.create allowed)
    -- The path led to the same place all along.
    have cwd : asked.cwd = site.cwd := by
      obtain ⟨done, did, -⟩ := confined
      exact did.cwd
    obtain ⟨located, -, -⟩ := Files.create_eq_ok created
    rw [confined.edits.locate_iff, cwd] at located
    have stores : ∀ before bytes, Confined may site before →
        Confined may site (before.store place bytes).2 := fun before bytes confined =>
      confined.step (did_store before place bytes) (.store allowed located bytes)
    have stored := Site.storeAll_of_stores stores opened (Buffer.batches (pieces value))
    simp only [Site.create, created]
    generalize Site.storeAll _ place _ = result at stored ⊢
    obtain ⟨_ | _, after⟩ := result
    · exact stored
    · exact stored

namespace Batch

variable {net : Network σ} {batch : Batch} {key : Key} {site : Site σ}

theorem fetchOne_confined (net : Network σ) (batch : Batch) (key : Key) (site : Site σ) :
    Confined (· = batch.artifactPath key) site (batch.fetchOne net key site).2 := by
  apply fetchOne_of_write
  · exact .refl _ site
  · exact fun url => Http.get_confined _ net batch.http url site
  · exact fun value asked confined => Artifact.write_confined confined rfl value

/-- A fetch changes no file unless its body is a document. -/
theorem fetchOne_files (rejected : ∀ body value, batch.body? net key site = some body →
    Json.parse body ≠ .ok value) : (batch.fetchOne net key site).2.files = site.files := by
  cases found : batch.source.resource key with
  | error fault => simp only [fetchOne, found]
  | ok url =>
    have asked := Http.get_files net batch.http url site
    rcases got : Http.get net batch.http url site with ⟨e | response, after⟩
    · rw [got] at asked
      rwa [fetchOne_of_error found got]
    · rw [got] at asked
      rw [fetchOne_of_response found got, ← asked]
      cases success : response.isSuccess with
      | false => simp [keep, success]
      | true =>
        cases accepted : Json.parse response.body with
        | error e => simp [keep, success, accepted]
        | ok value =>
          -- Such a body would have been one that is accepted.
          have answered : batch.body? net key site = some response.body := by
            simp [body?, found, got, success]
          exact absurd accepted (rejected response.body value answered)

/-- A key whose body is received with a status of success, and is a document. -/
def Accepted (net : Network σ) (batch : Batch) (site : Site σ) (k : Nat) : Prop :=
  ∃ body value, batch.body? net (.ofNat k) (batch.before net site k) = some body ∧
    Json.parse body = .ok value

/-- A place of a file that may be written while that many keys are fetched. -/
def Written (net : Network σ) (batch : Batch) (site : Site σ) (fetched : Nat) (place : Place) :
    Prop :=
  ∃ k < fetched, Accepted net batch site k ∧
    site.files.locate site.cwd (batch.artifactPath (.ofNat k)) = .ok ⟨place, false⟩

theorem before_edits (net : Network σ) (batch : Batch) (site : Site σ) (k : Nat) :
    site.files.Edits (Written net batch site k) (batch.before net site k).files := by
  induction k with
  | zero => exact .refl _ site.files
  | succ k ih =>
    have earlier : site.files.Edits (Written net batch site (k + 1))
        (batch.before net site k).files :=
      ih.mono fun place ⟨i, early, written⟩ => ⟨i, Nat.lt_succ_of_lt early, written⟩
    rw [before]
    by_cases accepted : Accepted net batch site k
    · have edits := (fetchOne_confined net batch (.ofNat k) (batch.before net site k)).edits
      refine earlier.trans (edits.mono ?_)
      rintro place ⟨_, rfl, located⟩
      rw [cwd_before, locate_before] at located
      exact ⟨k, Nat.lt_succ_self k, accepted, located⟩
    · rw [fetchOne_files fun body value answered parsed => accepted ⟨body, value, answered, parsed⟩]
      exact earlier

/-! ## Runs -/

theorem printAll_of_stuck {e : IoError} {piece : Bytes} (notEmpty : piece ≠ [])
    (refuses : ∀ bytes ≠ [], site.progress.takeAll bytes = (.error e, site.progress))
    (pieces : List Bytes) : ∃ after, site.printAll (piece :: pieces) = (.error e, after) ∧
      Alike after site ∧ after.progress = site.progress := by
  have failed : (site.print piece).1 = .error e := by simp only [print, refuses piece notEmpty]
  have progress : (site.print piece).2.progress = site.progress := by
    simp only [print, refuses piece notEmpty, record]
  have alike := print_alike site piece
  unfold printAll
  generalize site.print piece = result at failed progress alike ⊢
  obtain ⟨answer, after⟩ := result
  subst failed
  exact ⟨after, rfl, alike, progress⟩

/-- How a run may end, whatever the sink does. -/
theorem run_ends (net : Network σ) (batch : Batch) (site : Site σ) :
    Outcome net batch site (batch.run net site) := by
  by_cases stuck : site.progress.perCall = some 0
  · -- The list of keys is not accepted, so nothing else is done.
    obtain ⟨e, refuses⟩ := Sink.takeAll_of_stuck stuck
    have opening : Utf8.encode keyList ≠ [] := by
      rw [keyList]
      simp [Utf8.encode, Utf8.encodeChars]
    have pieces : keyListPieces = [Utf8.encode keyList, Utf8.encode "\n"] := by
      simp [keyListPieces, linePieces]
    have filled : transcript 0 ≠ [] := by
      rw [← flatten_keyListPieces, pieces, List.flatten_cons]
      exact List.append_ne_nil_of_left_ne_nil opening _
    obtain ⟨after, refused, alike, progress⟩ := printAll_of_stuck opening refuses [Utf8.encode "\n"]
    rw [run, runOver, pieces, refused]
    exact .unannounced alike (by rw [refuses _ filled, progress])
  · exact run_outcome net batch stuck

/-- How many keys a run has fetched that ended with an answer. The key that stopped it, by its
own failure or by its line, is the last of them. -/
inductive Fetched (sink : Sink) : Except BatchError (List Path) → Nat → Prop where
  | complete (written : List Path) : Fetched sink (.ok written) Key.count
  | failed (failure : KeyFailure) : Fetched sink (.error (.key failure)) (failure.key.index + 1)
  | unannounced {e : IoError} (refused : (sink.takeAll (transcript 0)).1 = .error e) :
      Fetched sink (.error (.output e)) 0
  | unheard {k : Nat} {e : IoError} (accepted : (sink.takeAll (transcript k)).1 = .ok ())
      (refused : (sink.takeAll (transcript (k + 1))).1 = .error e) :
      Fetched sink (.error (.output e)) (k + 1)

/-- What a run has changed that fetched so many keys. -/
structure Framed (net : Network σ) (batch : Batch) (site : Site σ) (fetched : Nat)
    (ended : Except BatchError (List Path) × Site σ) : Prop where
  within : fetched ≤ Key.count
  fetches : Fetched site.progress ended.1 fetched
  alike : Alike ended.2 (batch.before net site fetched)
  /-- Files of keys with an accepted body are new, or have other bytes. All else is the same. -/
  files : site.files.Edits (Written net batch site fetched) ended.2.files
  directories : ∀ place, ended.2.files.node? place = some .directory ↔
    site.files.node? place = some .directory
  /-- Nothing is removed. -/
  remains : ∀ place, site.files.node? place ≠ none → ended.2.files.node? place ≠ none
  /-- The files of the keys behind those that were fetched are as before. -/
  later : ∀ (key : Key) (spot : Files.Spot), fetched ≤ key.index →
    site.files.locate site.cwd (batch.artifactPath key) = .ok spot →
    ended.2.files.node? spot.place = site.files.node? spot.place

theorem Framed.of_alike {fetched : Nat} {ended : Except BatchError (List Path) × Site σ}
    (within : fetched ≤ Key.count) (fetches : Fetched site.progress ended.1 fetched)
    (alike : Alike ended.2 (batch.before net site fetched)) :
    Framed net batch site fetched ended := by
  have files := before_edits net batch site fetched
  rw [← alike.files] at files
  refine {
    within, fetches, alike, files
    directories := fun place => (files.rewrites place).directory_iff
    remains := fun place => (files.rewrites place).ne_none
    later := fun key spot behind located => files.others spot.place ?_ }
  rintro ⟨k, early, -, written⟩
  -- Both paths lead to places of their own names, and these differ.
  obtain ⟨dir, place⟩ := Files.locate_join key.isName_fileName located
  obtain ⟨dir', place'⟩ := Files.locate_join (Key.ofNat k).isName_fileName written
  have names := (List.append_inj' (place.symm.trans place') rfl).2
  rw [← key.ofNat_index] at names
  exact fileName_ne (Nat.lt_of_lt_of_le early behind) key.index_lt (List.singleton_inj.1 names).symm

/-- Whatever the servers, the files and the sink do, a run changes nothing but the files of keys
with an accepted body, up to the key that stopped it. -/
theorem run_framed (net : Network σ) (batch : Batch) (site : Site σ) :
    ∃ fetched, Framed net batch site fetched (batch.run net site) := by
  have ends := run_ends net batch site
  have bound : batch.stop net site ≤ Key.count := stop_le
  generalize batch.run net site = ended at ends ⊢
  cases ends with
  | heard verdict alike accepted =>
    refine ⟨batch.fetches net site, .of_alike (Nat.min_le_right _ _) ?_ alike⟩
    cases verdict with
    | @failed e stops fails =>
      have index := Key.index_ofNat stops
      rw [fetches, Nat.min_eq_left stops]
      simpa only [index] using Fetched.failed ⟨.ofNat (batch.stop net site), e⟩
    | complete all =>
      rw [fetches, all, Nat.min_eq_right (Nat.le_succ _)]
      exact .complete _
  | unannounced alike refused =>
    exact ⟨0, .of_alike (Nat.zero_le _) (.unannounced (by rw [refused])) alike⟩
  | unheard early alike accepted refused =>
    exact ⟨_, .of_alike (by omega) (.unheard accepted (by rw [refused])) alike⟩

end Batch

end VectorFetch

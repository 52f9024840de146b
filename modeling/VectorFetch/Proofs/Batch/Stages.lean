import VectorFetch.Proofs.Batch.Frame
import VectorFetch.Proofs.Files.AtOnce

/-!
# The stages of a fetch

* `Reports`: what a fetch reports, by the first stage that fails.
* `keep_of_failure`, `keep_of_rejected`, `keep_of_accepted`: one response.
* `Staged`, `fetchOne_staged`: no later stage is begun, and no file but that of the key is touched.
-/

namespace VectorFetch.Batch

open Site Json

variable {σ : Type} {net : Network σ} {batch : Batch} {key : Key} {site : Site σ}

/-! ## Reports -/

/-- The response that the transport gives for a key, whatever its status. -/
def Received (net : Network σ) (batch : Batch) (key : Key) (site : Site σ)
    (response : Http.Response) : Prop :=
  ∃ url, batch.source.resource key = .ok url ∧
    (Http.get net batch.http url site).1 = .ok response

/-- What a fetch reports: the first stage that fails, or the path of the file if none does. -/
structure Reports (net : Network σ) (batch : Batch) (key : Key) (site : Site σ)
    (answer : Except FetchError Path) : Prop where
  url : ∀ fault, answer = .error (.url fault) ↔ batch.source.resource key = .error fault
  network : ∀ e, answer = .error (.network e) ↔ ∃ url, batch.source.resource key = .ok url ∧
    (Http.get net batch.http url site).1 = .error e
  /-- Whatever the body is. -/
  status : ∀ code, answer = .error (.status code) ↔ ∃ response,
    Received net batch key site response ∧ response.status = code ∧ ¬(200 ≤ code ∧ code ≤ 299)
  /-- Whatever is in the directory. -/
  json : ∀ e, answer = .error (.json e) ↔ ∃ response, Received net batch key site response ∧
    (200 ≤ response.status ∧ response.status ≤ 299) ∧ parse response.body = .error e
  io : ∀ path e, answer = .error (.io path e) ↔
    path = batch.artifactPath key ∧ ∃ response value,
      Received net batch key site response ∧
      (200 ≤ response.status ∧ response.status ≤ 299) ∧ parse response.body = .ok value ∧
      (site.files.write site.cwd (batch.artifactPath key) (Utf8.encode value.pretty)).1 = .error e
  ok : ∀ path, answer = .ok path ↔
    path = batch.artifactPath key ∧ ∃ response value,
      Received net batch key site response ∧
      (200 ≤ response.status ∧ response.status ≤ 299) ∧ parse response.body = .ok value ∧
      (site.files.write site.cwd (batch.artifactPath key) (Utf8.encode value.pretty)).1 = .ok ()

theorem received_iff_of_got {url : Url} {response : Http.Response} {asked : Site σ}
    (found : batch.source.resource key = .ok url)
    (got : Http.get net batch.http url site = (.ok response, asked)) {other : Http.Response} :
    Received net batch key site other ↔ response = other := by
  simp [Received, found, got]

theorem isSuccess_iff (response : Http.Response) :
    response.isSuccess ↔ 200 ≤ response.status ∧ response.status ≤ 299 := by
  simp [Http.Response.isSuccess, Nat.lt_succ_iff]

theorem keep_of_failure {response : Http.Response} {asked : Site σ}
    (failure : response.isSuccess = false) :
    batch.keep key response asked = (.error (.status response.status), asked) := by
  simp only [keep, failure]
  rfl

theorem keep_of_rejected {response : Http.Response} {e : Json.Error} {asked : Site σ}
    (success : response.isSuccess) (rejected : parse response.body = .error e) :
    batch.keep key response asked = (.error (.json e), asked) := by
  simp only [keep, success, rejected]
  rfl

/-- A document is kept as if it were written at once. -/
theorem keep_of_accepted (batch : Batch) (key : Key) {response : Http.Response} {value : Value}
    (success : response.isSuccess) (accepted : parse response.body = .ok value) (asked : Site σ) :
    let wrote := asked.files.write asked.cwd (batch.artifactPath key) (Utf8.encode value.pretty)
    (batch.keep key response asked).1 =
        (match wrote.1 with
          | .error e => .error (.io (batch.artifactPath key) e)
          | .ok () => .ok (batch.artifactPath key)) ∧
      (batch.keep key response asked).2.files = wrote.2 := by
  obtain ⟨answer, files⟩ := Artifact.write_eq_write (batch.artifactPath key) value asked
  simp only [keep, success, accepted]
  rw [← files]
  generalize Artifact.write (batch.artifactPath key) value asked = result at answer ⊢
  generalize asked.files.write _ _ _ = wrote at answer ⊢
  obtain ⟨_, after⟩ := result
  obtain ⟨e | _, _⟩ := wrote
  · cases answer
    exact ⟨rfl, rfl⟩
  · cases answer
    exact ⟨rfl, rfl⟩

theorem reports_of_fault {fault : Url.Fault} (found : batch.source.resource key = .error fault) :
    Reports net batch key site (.error (.url fault)) := by
  constructor <;> simp [Received, found]

theorem reports_of_network {url : Url} {e : Http.TransferError} {asked : Site σ}
    (found : batch.source.resource key = .ok url)
    (got : Http.get net batch.http url site = (.error e, asked)) :
    Reports net batch key site (.error (.network e)) := by
  constructor <;> simp [Received, found, got]

theorem reports_of_response {url : Url} {response : Http.Response} {asked : Site σ}
    (found : batch.source.resource key = .ok url)
    (got : Http.get net batch.http url site = (.ok response, asked)) :
    Reports net batch key site (batch.keep key response asked).1 := by
  have received : ∀ other, Received net batch key site other ↔ response = other :=
    fun _ => received_iff_of_got found got
  have succeeded := isSuccess_iff response
  -- One case for each way in which `keep` ends, and in each the report is fixed by the equations.
  cases success : response.isSuccess with
  | false =>
    rw [keep_of_failure success]
    rw [success, Bool.false_eq_true, false_iff] at succeeded
    constructor <;> simp [received, found, got, succeeded]
    exact fun reached => by omega
  | true =>
    rw [success, eq_self_iff_true, true_iff] at succeeded
    cases rejected : parse response.body with
    | error e =>
      rw [keep_of_rejected success rejected]
      constructor <;> simp [received, found, got, succeeded, rejected]
    | ok value =>
      obtain ⟨kept, -⟩ := keep_of_accepted batch key success rejected asked
      have files := Http.get_files net batch.http url site
      have cwd := (Http.get_worked key.fileName net batch.http url site).cwd
      rw [got] at files cwd
      dsimp only at files cwd
      rw [files, cwd] at kept
      have turned : ∀ path, path = batch.artifactPath key ↔ batch.artifactPath key = path :=
        fun path => eq_comm
      rw [kept]
      cases wrote : (site.files.write site.cwd (batch.artifactPath key)
        (Utf8.encode value.pretty)).1 with
      | error e =>
        constructor <;> simp [received, found, got, succeeded, rejected, wrote, turned]
      | ok =>
        constructor <;> simp [received, found, got, succeeded, rejected, wrote, turned]

theorem fetchOne_reports (net : Network σ) (batch : Batch) (key : Key) (site : Site σ) :
    Reports net batch key site (batch.fetchOne net key site).1 := by
  cases found : batch.source.resource key with
  | error fault =>
    simp only [fetchOne, found]
    exact reports_of_fault found
  | ok url =>
    rcases got : Http.get net batch.http url site with ⟨e | response, asked⟩
    · rw [fetchOne_of_error found got]
      exact reports_of_network found got
    · rw [fetchOne_of_response found got]
      exact reports_of_response found got

/-! ## Stages -/

/-- What a fetch has done when it ends: nothing for a stage behind the one that it reports. -/
structure Staged (net : Network σ) (batch : Batch) (key : Key) (site : Site σ)
    (ended : Except FetchError Path × Site σ) : Prop where
  reports : Reports net batch key site ended.1
  /-- Without a URL nothing is done at all. -/
  unasked : ∀ fault, ended.1 = .error (.url fault) → ended.2 = site
  /-- Nothing is asked for but the response. -/
  asked : ∀ url, batch.source.resource key = .ok url →
    ended.2.requests = (Http.get net batch.http url site).2.requests ∧
    ended.2.server = (Http.get net batch.http url site).2.server
  /-- Without a document nothing is done behind the response. -/
  unread : ∀ url e, batch.source.resource key = .ok url → ended.1 = .error e →
    (∀ path io, e ≠ .io path io) → ended.2 = (Http.get net batch.http url site).2
  /-- No file is touched unless the file of the key can be made, or emptied. -/
  unwritten : ∀ e, ended.1 = .error e →
    (∀ path io, e = .io path io → ∃ io, site.files.create site.cwd path = .error io) →
    ended.2.files = site.files
  /-- A document is written as if it were written at once. -/
  filed : ∀ response value, Received net batch key site response →
    (200 ≤ response.status ∧ response.status ≤ 299) → parse response.body = .ok value →
    ended.2.files = (site.files.write site.cwd (batch.artifactPath key)
      (Utf8.encode value.pretty)).2
  /-- No place is written but that of the file. -/
  written : site.files.Edits (fun place =>
    site.files.locate site.cwd (batch.artifactPath key) = .ok ⟨place, false⟩) ended.2.files

theorem keep_eq_of_error {response : Http.Response} {asked : Site σ} {e : FetchError}
    (failed : (batch.keep key response asked).1 = .error e) (notIo : ∀ path io, e ≠ .io path io) :
    (batch.keep key response asked).2 = asked := by
  cases success : response.isSuccess with
  | false => rw [keep_of_failure success]
  | true =>
    cases accepted : parse response.body with
    | error _ => rw [keep_of_rejected success accepted]
    | ok value =>
      obtain ⟨answer, -⟩ := keep_of_accepted batch key success accepted asked
      rw [failed] at answer
      split at answer
      next io _ => exact absurd (Except.error.inj answer) (notIo _ io)
      next => cases answer

theorem fetchOne_filed {response : Http.Response} {value : Value}
    (received : Received net batch key site response)
    (success : 200 ≤ response.status ∧ response.status ≤ 299)
    (accepted : parse response.body = .ok value) :
    (batch.fetchOne net key site).2.files =
      (site.files.write site.cwd (batch.artifactPath key) (Utf8.encode value.pretty)).2 := by
  obtain ⟨url, found, answer⟩ := received
  have files := Http.get_files net batch.http url site
  have cwd := (Http.get_worked key.fileName net batch.http url site).cwd
  rw [fetchOne_of_response found (Prod.ext answer rfl), ← files, ← cwd]
  exact (keep_of_accepted batch key ((isSuccess_iff response).2 success) accepted _).2

theorem server_fetchOne {url : Url} (net : Network σ) (site : Site σ)
    (found : batch.source.resource key = .ok url) :
    (batch.fetchOne net key site).2.server = (Http.get net batch.http url site).2.server := by
  rcases got : Http.get net batch.http url site with ⟨e | response, asked⟩
  · rw [fetchOne_of_error found got]
  · rw [fetchOne_of_response found got]
    refine keep_of_write (P := fun after => after.server = asked.server) rfl (fun value => ?_)
      response
    refine Artifact.write_of_stores (P := fun after => after.server = asked.server) ?_ ?_ value
    · unfold Site.create
      split
      next => rfl
      next => rfl
    · exact fun place before bytes same => same

/-- A file that cannot be made or emptied is not written. -/
theorem write_of_create {files : Files} {cwd : Place} {path : Path} {e : IoError} {bytes : Bytes}
    (failed : files.create cwd path = .error e) :
    files.write cwd path bytes = (.error e, files) := by
  simp only [Files.write, failed]

/-- Whatever the servers, the files and the options are: a fetch reports the first stage that fails,
and it has done nothing for a later one. -/
theorem fetchOne_staged (net : Network σ) (batch : Batch) (key : Key) (site : Site σ) :
    Staged net batch key site (batch.fetchOne net key site) := by
  have reports := fetchOne_reports net batch key site
  have edits := (fetchOne_confined net batch key site).edits
  have unasked : ∀ fault, (batch.fetchOne net key site).1 = .error (.url fault) →
      (batch.fetchOne net key site).2 = site := by
    intro fault failed
    simp only [fetchOne, (reports.url fault).1 failed]
  have unread : ∀ url e, batch.source.resource key = .ok url →
      (batch.fetchOne net key site).1 = .error e → (∀ path io, e ≠ .io path io) →
      (batch.fetchOne net key site).2 = (Http.get net batch.http url site).2 := by
    intro url e found failed notIo
    rcases got : Http.get net batch.http url site with ⟨_ | response, asked⟩
    · rw [fetchOne_of_error found got]
    · rw [fetchOne_of_response found got] at failed ⊢
      exact keep_eq_of_error failed notIo
  refine {
    reports, unasked, unread
    asked := fun url found => ⟨requests_fetchOne net site found, server_fetchOne net site found⟩
    unwritten := fun e failed uncreated => ?_
    filed := fun _ _ => fetchOne_filed
    written := edits.mono fun place there => ?_ }
  · -- An error of a file is one of a response that was accepted; any other came before the file.
    by_cases io : ∃ path e', e = .io path e'
    · obtain ⟨path, e', rfl⟩ := io
      obtain ⟨rfl, response, value, received, success, accepted, -⟩ := (reports.io path e').1 failed
      obtain ⟨_, uncreated⟩ := uncreated _ _ rfl
      rw [fetchOne_filed received success accepted, write_of_create uncreated]
    · simp only [not_exists] at io
      cases found : batch.source.resource key with
      | error fault => rw [unasked fault ((reports.url fault).2 found)]
      | ok url =>
        rw [unread url e found failed io]
        exact Http.get_files net batch.http url site
  · obtain ⟨_, rfl, located⟩ := there
    exact located

/-- Neither the body nor the directory matters where the status says no. -/
example :
    let net : Network Unit :=
      ⟨fun _ => none, fun _ _ => (.message 404 [] (Utf8.encode "[1"), ()), fun _ _ _ => none⟩
    let batch : Batch := ⟨.fixed, ⟨"/missing"⟩, .default⟩
    (batch.fetchOne net (.ofNat 0) (.start .empty [] () .unlimited)).1 = .error (.status 404) := by
  decide +kernel

end VectorFetch.Batch

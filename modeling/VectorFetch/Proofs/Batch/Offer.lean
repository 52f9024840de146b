import VectorFetch.Proofs.Batch.Stages
import VectorFetch.Proofs.Files.Siblings

/-!
# What a fetch has to write

* `offer`: what a fetch has to write, or why there is nothing.
* `deliver`, `fetchOne_of_offer`: what becomes of it.
* `deliver_congr`: nothing else matters but where the path leads and what is there.
-/

namespace VectorFetch.Batch

variable {σ : Type} {batch : Batch} {key : Key}

/-- What a fetch has to write, or why it has nothing. -/
def offer (net : Network σ) (batch : Batch) (key : Key) (site : Site σ) :
    Except FetchError Json.Value :=
  match batch.source.resource key with
  | .error fault => .error (.url fault)
  | .ok url =>
    match (Http.get net batch.http url site).1 with
    | .error e => .error (.network e)
    | .ok response =>
      if !response.isSuccess then .error (.status response.status)
      else (Json.parse response.body).mapError .json

/-- What becomes of what a fetch has to write: it is written at once. -/
def deliver (batch : Batch) (key : Key) (files : Files) (cwd : Place) :
    Except FetchError Json.Value → Except FetchError Path × Files
  | .error e => (.error e, files)
  | .ok value =>
    let wrote := files.write cwd (batch.artifactPath key) (Utf8.encode value.pretty)
    ((wrote.1.map fun _ => batch.artifactPath key).mapError (.io (batch.artifactPath key)), wrote.2)

/-- Where a path leads to the same place, what is there decides. It may also be what was written
before. -/
theorem deliver_congr {a b : Files} {cwd : Place} (offered : Except FetchError Json.Value)
    (located : b.locate cwd (batch.artifactPath key) = a.locate cwd (batch.artifactPath key))
    (limits : b.limits = a.limits)
    (same : b.node? ((batch.artifactPath key).target cwd) =
        a.node? ((batch.artifactPath key).target cwd) ∨
      b.node? ((batch.artifactPath key).target cwd) =
        (batch.deliver key a cwd offered).2.node? ((batch.artifactPath key).target cwd)) :
    (batch.deliver key b cwd offered).1 = (batch.deliver key a cwd offered).1 ∧
      (batch.deliver key b cwd offered).2.node? ((batch.artifactPath key).target cwd) =
        (batch.deliver key a cwd offered).2.node? ((batch.artifactPath key).target cwd) := by
  cases offered with
  | error e => exact ⟨rfl, same.elim id id⟩
  | ok value =>
    simp only [deliver] at same ⊢
    generalize batch.artifactPath key = path at located same ⊢
    generalize Utf8.encode value.pretty = bytes at same ⊢
    obtain ⟨answer, written⟩ := same.elim
      -- A file with the bytes of an earlier delivery is written once more with the same ones.
      (fun untouched => Files.write_agree located (.of_limits limits untouched) bytes)
      (fun again => Files.write_again located limits again)
    rw [answer]
    exact ⟨rfl, written⟩

theorem fetchOne_of_offer (net : Network σ) (batch : Batch) (key : Key) (site : Site σ) :
    let delivered := batch.deliver key site.files site.cwd (batch.offer net key site)
    (batch.fetchOne net key site).1 = delivered.1 ∧
      (batch.fetchOne net key site).2.files = delivered.2 := by
  cases found : batch.source.resource key with
  | error fault =>
    simp only [fetchOne, offer, found]
    exact ⟨rfl, rfl⟩
  | ok url =>
    -- The transfer has touched neither the files nor the current directory.
    have files := Http.get_files net batch.http url site
    have cwd := (Http.get_worked key.fileName net batch.http url site).cwd
    simp only [offer, found]
    rcases got : Http.get net batch.http url site with ⟨e | response, asked⟩
    · rw [got] at files
      rw [fetchOne_of_error found got]
      exact ⟨rfl, files⟩
    · rw [got] at files cwd
      rw [fetchOne_of_response found got, ← files, ← cwd]
      dsimp only
      cases success : response.isSuccess with
      | false =>
        rw [keep_of_failure success]
        exact ⟨rfl, rfl⟩
      | true =>
        cases read : Json.parse response.body with
        | error e =>
          rw [keep_of_rejected success read]
          exact ⟨rfl, rfl⟩
        | ok value =>
          obtain ⟨answer, written⟩ := keep_of_accepted batch key success read asked
          rw [answer, written, Bool.not_true, if_neg Bool.false_ne_true, Except.mapError, deliver]
          generalize Files.write asked.files _ _ _ = wrote
          obtain ⟨e | _, after⟩ := wrote
          · exact ⟨rfl, rfl⟩
          · exact ⟨rfl, rfl⟩

end VectorFetch.Batch

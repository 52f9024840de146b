import VectorFetch.Proofs.Batch.Run

/-!
# More redirects

* `Options.AtMost`: options that differ in nothing but a larger number of redirects.
* `turn_of_le`, `follow_of_le`: a transfer that does not run out of redirects goes the same way when
  more are allowed.
* `run_of_atMost`: the same for a run, whatever the servers remember of it.
-/

namespace VectorFetch

namespace Http

/-- The same options, with as many redirects or more. Both follow redirects. -/
structure Options.AtMost (narrow wide : Options) : Prop where
  timeout : wide.connectTimeout = narrow.connectTimeout
  follows : narrow.followRedirects = true
  followsOn : wide.followRedirects = true
  le : narrow.maxRedirections ≤ wide.maxRedirections

namespace Options.AtMost

variable {narrow wide : Options}

/-- Both numbers are cut off at the same cap, so the order stays. -/
theorem hops_le (atMost : narrow.AtMost wide) : narrow.hops ≤ wide.hops := by
  have le : narrow.maxRedirections.toNat ≤ wide.maxRedirections.toNat := atMost.le
  simp only [hops, atMost.follows, atMost.followsOn, if_true]
  omega

theorem isUsable_eq (atMost : narrow.AtMost wide) : wide.isUsable = narrow.isUsable := by
  simp only [isUsable, atMost.timeout]

end Options.AtMost

variable {σ : Type} {net : Network σ} {followRedirects : Bool} {hops more : Nat}

/-! ## Transfers -/

/-- A reply that does not exhaust the redirects is dealt with in the same way when more are left. What
it leaves of them is more, too. -/
theorem turn_of_le (le : hops ≤ more) {address : Address} {reply : Reply}
    (enough : turn followRedirects hops address reply ≠ .inl (.error .tooManyRedirects)) :
    (∃ answer, turn followRedirects hops address reply = .inl answer ∧
        turn followRedirects more address reply = .inl answer) ∨
      ∃ left next others, turn followRedirects hops address reply = .inr (left, next) ∧
        turn followRedirects more address reply = .inr (others, next) ∧ left ≤ others := by
  cases redirects : if followRedirects then reply.redirect? else none with
  | none =>
    refine .inl ⟨reply.receive, ?_, ?_⟩
    · simp only [turn, redirects]
    · simp only [turn, redirects]
  | some place =>
    cases hops with
    -- Without a redirection left the turn would have ended with the error that `enough` excludes.
    | zero => exact absurd (by simp only [turn, redirects]) enough
    | succ hops =>
      obtain ⟨others, rfl⟩ := Nat.exists_eq_add_of_le' (Nat.le_trans (Nat.succ_pos hops) le)
      cases leads : address.redirected place with
      | error e =>
        refine .inl ⟨.error e, ?_, ?_⟩
        · simp only [turn, redirects, leads]
        · simp only [turn, redirects, leads]
      | ok next =>
        refine .inr ⟨hops, next, others, ?_, ?_, Nat.le_of_succ_le_succ le⟩
        · simp only [turn, redirects, leads]
        · simp only [turn, redirects, leads]

/-- A transfer that does not run out of redirects goes the same way when more are allowed. -/
theorem follow_of_le (le : hops ≤ more) {address : Address} {site : Site σ}
    (enough : (follow net followRedirects hops address site).1 ≠ .error .tooManyRedirects) :
    follow net followRedirects more address site =
      follow net followRedirects hops address site := by
  -- By induction along the chain: each redirect costs both transfers one of those that are left, so
  -- the servers are asked the same and remember the same.
  induction hops using Nat.strongRecOn generalizing more address site with
  | ind hops ih =>
    rw [follow_eq net _ more, follow_eq net _ hops]
    rw [follow_eq] at enough
    cases refused : net.refusal? address with
    | some e => rfl
    | none =>
      rw [refused] at enough
      generalize (net.respond site.server ⟨address⟩).1 = reply at enough ⊢
      have within : turn followRedirects hops address reply ≠ .inl (.error .tooManyRedirects) := by
        intro exhausted
        rw [exhausted] at enough
        exact enough rfl
      obtain ⟨answer, here, there⟩ | ⟨left, next, others, here, there, fewer⟩ := turn_of_le le within
      · simp only [here, there]
      · obtain ⟨rfl, -⟩ := turn_eq_inr here
        simp only [here, there] at enough ⊢
        exact ih left (Nat.lt_succ_self left) fewer enough

variable {narrow wide : Options} {url : Url} {site : Site σ}

theorem transfer_of_atMost (atMost : narrow.AtMost wide)
    (enough : (transfer net narrow url site).1 ≠ .error .tooManyRedirects) :
    transfer net wide url site = transfer net narrow url site := by
  unfold transfer at enough ⊢
  rw [atMost.isUsable_eq]
  by_cases usable : narrow.isUsable
  · simp only [usable, Bool.not_true, Bool.false_eq_true, if_false] at enough ⊢
    cases spelled : Address.ofText url.text with
    | error e => rfl
    | ok address =>
      simp only [spelled] at enough ⊢
      by_cases file : address.scheme = "file"
      · rw [if_pos file, if_pos file]
      · rw [if_neg file] at enough
        rw [if_neg file, if_neg file, atMost.followsOn, ← atMost.follows]
        exact follow_of_le atMost.hops_le enough
  · simp only [usable, Bool.not_false, if_true]

theorem get_of_atMost (atMost : narrow.AtMost wide)
    (enough : ∀ e, (get net narrow url site).1 = .error e → e.fault ≠ .tooManyRedirects) :
    get net wide url site = get net narrow url site := by
  rw [(get_eq_transfer net narrow url site).1] at enough
  have within : (transfer net narrow url site).1 ≠ .error .tooManyRedirects := by
    intro exhausted
    rw [exhausted] at enough
    exact enough _ rfl rfl
  rw [get, get, transfer_of_atMost atMost within]

end Http

/-! ## Runs -/

namespace Batch

variable {σ : Type} {net : Network σ} {batch : Batch} {site : Site σ} {narrow wide : Http.Options}

/-- What is done with a response does not depend on the options. -/
theorem keep_withHttp (batch : Batch) (http : Http.Options) (key : Key) (response : Http.Response)
    (site : Site σ) : keep { batch with http } key response site = keep batch key response site := by
  simp only [keep, artifactPath]

theorem fetchOne_of_atMost (atMost : narrow.AtMost wide) {key : Key}
    (enough : ∀ e, (fetchOne net { batch with http := narrow } key site).1 = .error (.network e) →
      e.fault ≠ .tooManyRedirects) :
    fetchOne net { batch with http := wide } key site =
      fetchOne net { batch with http := narrow } key site := by
  unfold fetchOne at enough ⊢
  cases found : batch.source.resource key with
  | error fault => rfl
  | ok url =>
    simp only [found] at enough ⊢
    have transferred : ∀ e, (Http.get net narrow url site).1 = .error e →
        e.fault ≠ .tooManyRedirects := by
      intro e failed
      rw [(Prod.ext failed rfl : Http.get net narrow url site = (.error e, _))] at enough
      exact enough e rfl
    rw [Http.get_of_atMost atMost transferred]
    simp only [keep_withHttp]

/-- No fetch ran out of redirects. -/
def Enough (answer : Except BatchError (List Path)) : Prop :=
  ∀ key e, answer = .error (.key ⟨key, .network e⟩) → e.code ≠ 47

theorem fetchAll_of_atMost (atMost : narrow.AtMost wide) {written : List Path} {keys : List Key}
    (enough : Enough (fetchAll net { batch with http := narrow } written keys site).1) :
    fetchAll net { batch with http := wide } written keys site =
      fetchAll net { batch with http := narrow } written keys site := by
  -- By induction on the keys: each fetch leaves the two runs at the same site, so the next one asks
  -- the same server again.
  induction keys generalizing written site with
  | nil => rfl
  | cons key keys ih =>
    unfold fetchAll at enough ⊢
    rcases fetched : fetchOne net { batch with http := narrow } key site with ⟨e | path, after⟩
    · rw [fetched] at enough
      have within : ∀ e, (fetchOne net { batch with http := narrow } key site).1 =
          .error (.network e) → e.fault ≠ .tooManyRedirects := by
        rw [fetched]
        rintro e ⟨⟩ exhausted
        exact enough key e rfl (by rw [Http.TransferError.code, exhausted]; rfl)
      rw [fetchOne_of_atMost atMost within, fetched]
    · have within : ∀ e, (fetchOne net { batch with http := narrow } key site).1 =
          .error (.network e) → e.fault ≠ .tooManyRedirects := by
        rw [fetched]
        intro e same
        cases same
      rw [fetched] at enough
      rw [fetchOne_of_atMost atMost within, fetched]
      dsimp only at enough ⊢
      rcases printed : after.printAll (gotPieces key) with ⟨e | _, announced⟩
      · rfl
      · rw [printed] at enough
        exact ih enough

theorem runOver_of_atMost (atMost : narrow.AtMost wide) {announcement : List Bytes}
    {keys : List Key}
    (enough : Enough (runOver net { batch with http := narrow } announcement keys site).1) :
    runOver net { batch with http := wide } announcement keys site =
      runOver net { batch with http := narrow } announcement keys site := by
  unfold runOver at enough ⊢
  rcases printed : site.printAll announcement with ⟨e | _, announced⟩
  · rfl
  · rw [printed] at enough
    dsimp only at enough ⊢
    rw [fetchAll_of_atMost atMost]
    rcases ended : fetchAll net { batch with http := narrow } [] keys _ with ⟨e | paths, after⟩
    · rw [ended] at enough
      exact enough
    · exact nofun

/-- Raising the redirect limit is safe. Unless a run fails with the code of too many redirects, a run
with more of them ends in the same way: with the same answer at the same site, which holds the
requests, the files, the progress, and what the server remembers. -/
theorem run_of_atMost (net : Network σ) (batch : Batch) (site : Site σ)
    (atMost : narrow.AtMost wide)
    (enough : ∀ key e, (run net { batch with http := narrow } site).1 =
      .error (.key ⟨key, .network e⟩) → e.code ≠ 47) :
    run net { batch with http := wide } site = run net { batch with http := narrow } site :=
  runOver_of_atMost atMost enough

/-- The first request is redirected, as far as one redirect goes, and the third one has no success.
The larger number is beyond the cap. -/
theorem run_of_atMost_of_redirected :
    let net : Network Nat := ⟨fun _ => none, fun n _ =>
      (.message (if n = 0 then 302 else if n = 1 then 200 else 404)
        (if n = 0 then [("Location", "../b?c")] else []) (Utf8.encode "[1E2]"), n + 1),
      fun _ _ _ => none⟩
    let narrow : Http.Options := ⟨some (.ofSeconds 5), true, 1⟩
    let wide : Http.Options := ⟨some (.ofSeconds 5), true, 40000⟩
    let batch : Batch := ⟨.fixed, ⟨"/out"⟩, narrow⟩
    let site : Site Nat := .start ⟨[(["out"], .directory)], []⟩ [] 0 .unlimited
    narrow.AtMost wide ∧
      (run net batch site).1 = .error (.key ⟨.ofNat 1, .status 404⟩) ∧
      run net { batch with http := wide } site = run net batch site := by
  intro net narrow wide batch site
  have atMost : narrow.AtMost wide := ⟨rfl, rfl, rfl, by decide⟩
  have stops : batch.stop net site = 1 := by decide +kernel
  have fails : batch.attempt net site 1 = .error (.status 404) := by decide +kernel
  -- The run is too long to be evaluated as a whole, but its verdict is that of the first two keys.
  have ended : (run net batch site).1 = .error (.key ⟨.ofNat 1, .status 404⟩) := by
    have early : batch.stop net site < Key.count := by rw [stops]; decide
    have calls : site.progress.perCall ≠ some 0 := by decide
    have verdict : Verdict net batch site _ := .failed early (stops ▸ fails)
    rw [(verdict_of_room net batch rfl calls).1.unique verdict, stops]
  refine ⟨atMost, ended, run_of_atMost net batch site atMost fun key e failed => ?_⟩
  have same := ended.symm.trans failed
  simp at same

end Batch

end VectorFetch

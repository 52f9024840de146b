import VectorFetch.Proofs.Batch.Body
import VectorFetch.Proofs.Batch.Frame

/-!
# Reruns

* `Network.Stateless`: servers that answer each request alike.
* `Echoes`: two transfers that send the same requests and get the same response.
* `Ready`: files among which every artifact can be written. Every run leaves files ready.
* `Converges`, `run_converges`: two runs leave the same artifacts, whatever was there before.
-/

namespace VectorFetch

open Site

variable {σ τ : Type}

/-- Each request is answered alike, whatever came before it. -/
def Network.Stateless (net : Network σ) : Prop :=
  ∀ s s' request, (net.respond s request).1 = (net.respond s' request).1

/-- The sink takes whatever it is given. -/
structure Sink.AcceptsAll (sink : Sink) : Prop where
  room : sink.room = none
  calls : sink.perCall ≠ some 0

/-! ## Transfers from stateless servers -/

namespace Http

/-- Work on two sites that sends the same requests and has the same response, if that says
success. Without a request there is none. -/
structure Echoes {ε : Type} (a b : Site σ) (x y : Except ε Response × Site σ) : Prop where
  success : ∀ response, response.isSuccess → (x.1 = .ok response ↔ y.1 = .ok response)
  sent : ∃ sent, x.2.requests = a.requests ++ sent ∧ y.2.requests = b.requests ++ sent ∧
    (sent = [] → ∀ response, response.isSuccess → x.1 ≠ .ok response)

variable {net : Network σ} {a b : Site σ}

theorem Echoes.error (e : TransferFault) (a b : Site σ) : Echoes a b (.error e, a) (.error e, b) :=
  ⟨fun _ _ => Iff.rfl, [], by simp, by simp, fun _ _ _ => nofun⟩

theorem Echoes.visit (net : Network σ) (a b : Site σ) (address : Address)
    (answer : Except TransferFault Response) :
    Echoes a b (answer, Http.visit net a address) (answer, Http.visit net b address) :=
  ⟨fun _ _ => Iff.rfl, [⟨address⟩], requests_visit net a address, requests_visit net b address,
    nofun⟩

theorem Echoes.behind {address : Address} {x y : Except TransferFault Response × Site σ}
    (echoes : Echoes (Http.visit net a address) (Http.visit net b address) x y) :
    Echoes a b x y := by
  obtain ⟨success, sent, sentA, sentB, -⟩ := echoes
  refine ⟨success, ⟨address⟩ :: sent, ?_, ?_, nofun⟩
  · rw [sentA, requests_visit, List.append_assoc, List.singleton_append]
  · rw [sentB, requests_visit, List.append_assoc, List.singleton_append]

theorem follow_echoes (stateless : net.Stateless) (followRedirects : Bool) (hops : Nat)
    (address : Address) (a b : Site σ) :
    Echoes a b (follow net followRedirects hops address a)
      (follow net followRedirects hops address b) := by
  induction hops using Nat.strongRecOn generalizing address a b with
  | ind hops ih =>
    rw [follow_eq, follow_eq, stateless b.server a.server]
    cases net.refusal? address with
    | some e => exact .error e a b
    | none =>
      dsimp only
      split
      next => exact .visit net a b address _
      next left next turned =>
        obtain ⟨rfl, -⟩ := turn_eq_inr turned
        exact (ih left (Nat.lt_succ_self left) next _ _).behind

/-- The response for a file of this machine has no status. -/
theorem not_isSuccess_of_readFile {site : Site σ} {address : Address} {response : Response}
    (read : readFile site address = .ok response) : ¬response.isSuccess := by
  have status : response.status = 0 := by
    unfold readFile at read
    grind
  simp [Response.isSuccess, status]

theorem get_echoes (stateless : net.Stateless) (options : Options) (url : Url) (a b : Site σ) :
    Echoes a b (get net options url a) (get net options url b) := by
  have transferred : Echoes a b (transfer net options url a) (transfer net options url b) := by
    unfold transfer
    split
    next => exact .error _ a b
    next =>
      split
      next => exact .error _ a b
      next address _ =>
        split
        next =>
          -- Files of this machine may differ, but to read one is no success of a request.
          have fails : ∀ site : Site σ, ∀ response : Response, response.isSuccess →
              readFile site address ≠ .ok response := fun site response success read =>
            not_isSuccess_of_readFile read success
          refine ⟨fun response success => ?_, [], by simp, by simp, fun _ => fails a⟩
          exact iff_of_false (fails a response success) (fails b response success)
        next => exact follow_echoes stateless _ _ address a b
  obtain ⟨success, sent⟩ := transferred
  constructor
  · intro response succeeds
    rw [get_eq_ok_iff, get_eq_ok_iff]
    exact success response succeeds
  · simp only [ne_eq, get_eq_ok_iff]
    rwa [(get_eq_transfer net options url a).2, (get_eq_transfer net options url b).2]

end Http

namespace Batch

variable {net : Network σ} {batch : Batch} {key : Key} {site a b : Site σ}

/-! ## Fetches from stateless servers -/

theorem body?_of_stateless (stateless : net.Stateless) (batch : Batch) (key : Key) (a b : Site σ) :
    batch.body? net key a = batch.body? net key b := by
  apply Option.ext
  intro body
  rw [body?_eq_some_iff, body?_eq_some_iff]
  refine exists_congr fun url => exists_congr fun response => and_congr_right fun _ =>
    and_congr_right fun success => and_congr_left fun _ => ?_
  exact (Http.get_echoes stateless batch.http url a b).success response success

theorem fetchOne_sent (stateless : net.Stateless) (batch : Batch) (key : Key) (a b : Site σ) :
    ∃ sent, (batch.fetchOne net key a).2.requests = a.requests ++ sent ∧
      (batch.fetchOne net key b).2.requests = b.requests ++ sent ∧
      (sent = [] → batch.body? net key a = none) := by
  cases found : batch.source.resource key with
  | error fault =>
    refine ⟨[], ?_, ?_, ?_⟩
    · simp [fetchOne, found]
    · simp [fetchOne, found]
    · simp [body?, found]
  | ok url =>
    obtain ⟨sent, sentA, sentB, quiet⟩ := (Http.get_echoes stateless batch.http url a b).sent
    refine ⟨sent, ?_, ?_, fun none => ?_⟩
    · rw [requests_fetchOne net a found, sentA]
    · rw [requests_fetchOne net b found, sentB]
    · rw [Option.eq_none_iff_forall_ne_some]
      -- A transfer that sends nothing has no answer that is a success.
      intro body answered
      obtain ⟨url', response, found', success, got, -⟩ := body?_eq_some_iff.1 answered
      obtain rfl : url = url' := Except.ok.inj (found.symm.trans found')
      exact quiet none response success got

theorem requestsOf_of_stateless (stateless : net.Stateless) (batch : Batch) (a b : Site σ) :
    batch.requestsOf net a = batch.requestsOf net b := by
  funext k
  obtain ⟨sent, sentA, sentB, -⟩ := fetchOne_sent stateless batch (.ofNat k)
    (batch.before net a k) (batch.before net b k)
  rw [requestsOf, requestsOf, before, before, sentA, sentB]
  simp

/-- A key that gives a body has been asked for at its URL. -/
theorem exists_request_of_body? (stateless : net.Stateless) {k : Nat} {body : Bytes}
    (answered : batch.body? net (.ofNat k) (batch.before net site k) = some body) :
    ∃ url address, batch.source.resource (.ofNat k) = .ok url ∧
      Http.Address.ofText url.text = .ok address ∧ ⟨address⟩ ∈ batch.requestsOf net site k := by
  obtain none | ⟨url, address, redirects, found, spelled, first⟩ := requestsOf_cases net batch site k
  · obtain ⟨sent, sentHere, -, quiet⟩ := fetchOne_sent stateless batch (.ofNat k)
      (batch.before net site k) (batch.before net site k)
    rw [requestsOf, before, sentHere, List.drop_left] at none
    rw [quiet none] at answered
    cases answered
  · exact ⟨url, address, found, spelled, by rw [first]; exact .head _⟩

/-! ## Files that are ready for every artifact -/

/-- The output directory is there, and whatever stands in it where an artifact goes is no
directory. An artifact takes any number of bytes, be it there or made. -/
structure Ready (batch : Batch) (files : Files) (cwd : Place) : Prop where
  directory : files.isDirectory cwd batch.outDir
  free : ∀ key, ¬files.isDirectory cwd (batch.artifactPath key)
  unlimited : ∀ key spot, files.locate cwd (batch.artifactPath key) = .ok spot →
    files.capacityOf spot.place = none

variable {cwd : Place}

theorem Ready.of_edits {may : Place → Prop} {before after : Files} (edits : before.Edits may after)
    (ready : Ready batch before cwd) : Ready batch after cwd where
  directory := by
    rw [edits.isDirectory_eq]
    exact ready.directory
  free key := by
    rw [edits.isDirectory_eq]
    exact ready.free key
  unlimited key spot located := by
    rw [edits.capacityOf_eq]
    exact ready.unlimited key spot (edits.locate_iff.1 located)

theorem Ready.writable {files : Files} (ready : Ready batch files cwd) (key : Key)
    (short : (batch.artifactPath key).text.utf8ByteSize ≤ 4095) :
    files.Writable cwd (batch.artifactPath key) := by
  have clean : '\x00' ∉ key.fileName.toList := key.not_mem_fileName (by decide) (by decide)
  obtain ⟨dir, located⟩ := Files.locate_join_of_isDirectory key.isName_fileName clean
    key.utf8ByteSize_fileName_le ready.directory short
  rw [← artifactPath_eq] at located
  have endless := ready.unlimited key _ located
  unfold Files.capacityOf at endless
  cases there : files.node? (dir ++ [key.fileName]) with
  | none =>
    rw [there] at endless
    exact .new located there endless
  | some node =>
    cases node with
    | directory => exact absurd (Files.isDirectory_iff.2 ⟨_, located, there⟩) (ready.free key)
    | discard => exact .there located (.device there)
    | file content capacity =>
      rw [there] at endless
      obtain rfl : capacity = none := endless
      exact .there located (.file there)

/-- A directory is ready if all that is named like an artifact takes any number of bytes, and no
limit is set for what is missing. -/
theorem ready_of_takesAll {files : Files} (directory : files.isDirectory cwd batch.outDir)
    (named : ∀ (key : Key) dir node, files.node? (dir ++ [key.fileName]) = some node →
      files.TakesAll (dir ++ [key.fileName])) (limits : files.limits = []) :
    Ready batch files cwd := by
  have takes : ∀ key spot node, files.locate cwd (batch.artifactPath key) = .ok spot →
      files.node? spot.place = some node → files.TakesAll spot.place := by
    intro key spot node located there
    rw [artifactPath_eq] at located
    obtain ⟨dir, place⟩ := Files.locate_join key.isName_fileName located
    rw [place] at there ⊢
    exact named key dir node there
  refine ⟨directory, fun key there => ?_, fun key spot located => ?_⟩
  · obtain ⟨spot, located, there⟩ := Files.isDirectory_iff.1 there
    cases takes key spot _ located there with
    | file other => simp [there] at other
    | device other => simp [there] at other
  · unfold Files.capacityOf
    cases there : files.node? spot.place with
    | none => simp [Files.capacityAt, limits]
    | some node =>
      cases takes key spot node located there with
      | file other =>
        rw [there] at other
        cases other
        rfl
      | device other =>
        rw [there] at other
        cases other
        rfl

/-- Among files that are ready, what decides a fetch is its body. A path that is too long is so
for all files. -/
theorem isOk_fetchOne_iff (ready : Ready batch site.files site.cwd) :
    (batch.fetchOne net key site).1.isOk ↔
      (∃ body value, batch.body? net key site = some body ∧ Json.parse body = .ok value) ∧
        (batch.artifactPath key).text.utf8ByteSize ≤ 4095 := by
  constructor
  · intro succeeded
    cases fetched : (batch.fetchOne net key site).1 with
    | error e =>
      rw [fetched] at succeeded
      cases succeeded
    | ok path =>
      obtain ⟨-, body, value, dir, answered, accepted, located, -⟩ := keeps_of_fetchOne fetched
      exact ⟨⟨body, value, answered, accepted⟩, (Files.locate_eq_ok_iff.1 located).short⟩
  · rintro ⟨⟨body, value, answered, accepted⟩, short⟩
    rw [fetchOne_of_writable (ready.writable key short) answered accepted]
    rfl

/-! ## Runs leave files ready -/

theorem ready_before (ready : Ready batch site.files site.cwd) (k : Nat) :
    Ready batch (batch.before net site k).files (batch.before net site k).cwd := by
  rw [cwd_before]
  induction k with
  | zero => exact ready
  | succ k ih => exact ih.of_edits (fetchOne_confined net batch (.ofNat k) _).edits

/-! ## Two runs -/

theorem stop_of_ready (stateless : net.Stateless) (readyA : Ready batch a.files a.cwd)
    (readyB : Ready batch b.files b.cwd) : batch.stop net a = batch.stop net b := by
  have same : ∀ k, (batch.attempt net a k).isOk = (batch.attempt net b k).isOk := by
    intro k
    rw [Bool.eq_iff_iff, attempt, attempt, isOk_fetchOne_iff (ready_before readyA k),
      isOk_fetchOne_iff (ready_before readyB k),
      body?_of_stateless stateless batch _ (batch.before net a k) (batch.before net b k)]
  simp only [stop, same]

theorem Verdict.isOk_iff {answer : Except BatchError (List Path)}
    (verdict : Verdict net batch site answer) :
    (∃ written, answer = .ok written) ↔ batch.stop net site = Key.count := by
  cases verdict with
  | failed stops fails => exact iff_of_false nofun (Nat.ne_of_lt stops)
  | complete all => exact iff_of_true ⟨_, rfl⟩ all

/-- Among files that are ready a run is complete if each key is answered with a document and each
announcement is taken. -/
theorem isOk_run_of_answered (ready : Ready batch site.files site.cwd)
    (heard : site.progress.AcceptsAll)
    (answered : ∀ key here, ∃ body value,
      batch.body? net key here = some body ∧ Json.parse body = .ok value)
    (short : ∀ key, (batch.artifactPath key).text.utf8ByteSize ≤ 4095) :
    (batch.run net site).1.isOk := by
  have attempts : ∀ k, (batch.attempt net site k).isOk := fun k =>
    (isOk_fetchOne_iff (ready_before ready k)).2 ⟨answered _ _, short _⟩
  have all : batch.stop net site = Key.count := by
    refine Nat.le_antisymm stop_le (Nat.le_of_not_lt fun stops => ?_)
    obtain ⟨e, failed⟩ := attempt_stop stops
    have succeeded := attempts (batch.stop net site)
    rw [failed] at succeeded
    cases succeeded
  obtain ⟨written, complete⟩ := (verdict_of_room net batch heard.room heard.calls).1.isOk_iff.2 all
  rw [complete]
  rfl

/-- Two runs of a batch that have the same effect. -/
structure Converges (net : Network σ) (batch : Batch) (a b : Site σ) : Prop where
  completes : (∃ written, (batch.run net a).1 = .ok written) ↔
    ∃ written, (batch.run net b).1 = .ok written
  /-- Both send the same requests, so no key is skipped for a file that is there. -/
  sent : ∃ sent, (batch.run net a).2.requests = a.requests ++ sent ∧
    (batch.run net b).2.requests = b.requests ++ sent ∧
    ((∃ written, (batch.run net a).1 = .ok written) → ∀ k < Key.count, ∃ url address,
      batch.source.resource (.ofNat k) = .ok url ∧ Http.Address.ofText url.text = .ok address ∧
      ⟨address⟩ ∈ sent)
  /-- Complete runs leave every artifact with the same bytes. -/
  artifacts : (∃ written, (batch.run net a).1 = .ok written) → ∀ k < Key.count, ∃ bytes,
    a.files.Keeps (batch.run net a).2.files a.cwd (batch.artifactPath (.ofNat k)) bytes ∧
    b.files.Keeps (batch.run net b).2.files b.cwd (batch.artifactPath (.ofNat k)) bytes

theorem converges_of_ready (stateless : net.Stateless) (readyA : Ready batch a.files a.cwd)
    (readyB : Ready batch b.files b.cwd) (heardA : a.progress.AcceptsAll)
    (heardB : b.progress.AcceptsAll) : Converges net batch a b := by
  obtain ⟨verdictA, alikeA⟩ := verdict_of_room net batch heardA.room heardA.calls
  obtain ⟨verdictB, alikeB⟩ := verdict_of_room net batch heardB.room heardB.calls
  have stops := stop_of_ready stateless readyA readyB
  have asks := requestsOf_of_stateless stateless batch a b
  have completeA := verdictA.isOk_iff
  have completeB := verdictB.isOk_iff
  have requestsB := alikeB.requests.trans (requests_before net batch b _)
  rw [fetches, ← stops, ← asks] at requestsB
  -- In a complete run every key was fetched, and what it fetched does not depend on the files.
  have kept : ∀ {site : Site σ}, batch.stop net site = Key.count → ∀ k < Key.count, ∃ body value,
      batch.body? net (.ofNat k) (batch.before net site k) = some body ∧
      Json.parse body = .ok value ∧
      site.files.Keeps (batch.before net site (batch.fetches net site)).files site.cwd
        (batch.artifactPath (.ofNat k)) (Utf8.encode value.pretty) := by
    intro site all k within
    have bound : batch.fetches net site = Key.count := by rw [fetches]; omega
    exact keeps_before (by omega) (by omega) (by omega)
  refine ⟨?_, ⟨_, alikeA.requests.trans (requests_before net batch a _), requestsB, ?_⟩, ?_⟩
  · rw [completeA, completeB, stops]
  · intro complete k within
    have all := completeA.1 complete
    obtain ⟨body, value, answered, -⟩ := kept all k within
    obtain ⟨url, address, found, spelled, member⟩ := exists_request_of_body? stateless answered
    refine ⟨url, address, found, spelled, List.mem_flatMap.2 ⟨k, ?_, member⟩⟩
    rw [List.mem_range, fetches]
    omega
  · intro complete k within
    have all := completeA.1 complete
    obtain ⟨body, value, answered, accepted, keepsA⟩ := kept all k within
    obtain ⟨body', value', answered', accepted', keepsB⟩ := kept (stops ▸ all) k within
    rw [body?_of_stateless stateless batch _ (batch.before net b k) (batch.before net a k), answered]
      at answered'
    cases answered'
    rw [accepted] at accepted'
    cases accepted'
    rw [alikeA.files, alikeB.files]
    exact ⟨_, keepsA, keepsB⟩

/-- Runs converge, whatever stood where the artifacts go. That goes for a run behind an earlier
one too, wherever that stopped. -/
theorem run_converges (net : Network σ) (batch : Batch) {a b : Site σ} (stateless : net.Stateless)
    (readyA : Ready batch a.files a.cwd) (readyB : Ready batch b.files b.cwd)
    (heardA : a.progress.AcceptsAll) (heardB : b.progress.AcceptsAll) :
    Converges net batch a b ∧
      ∀ {τ : Type} (old : Network τ) (first : Batch) (earlier : Site τ) (rerun : Site σ),
        earlier.files = b.files → rerun.files = (first.run old earlier).2.files →
        rerun.cwd = b.cwd → rerun.progress.AcceptsAll → Converges net batch a rerun := by
  refine ⟨converges_of_ready stateless readyA readyB heardA heardB, ?_⟩
  intro τ old first earlier rerun same left cwd heard
  obtain ⟨_, framed⟩ := run_framed old first earlier
  have edits := framed.files
  rw [same, ← left] at edits
  have ready := readyB.of_edits edits
  rw [← cwd] at ready
  exact converges_of_ready stateless readyA ready heardA heard

/-- A file is there that nothing has written, and an earlier run got no further than two keys. -/
theorem run_converges_of_third_missing :
    let net : Network Unit := ⟨fun _ => none, fun _ request =>
      (.message 200 [] (Utf8.encode ("\"" ++ request.target ++ "\"")), ()), fun _ _ _ => none⟩
    let old : Network Nat := ⟨fun _ => none, fun n _ =>
      (.message (if n < 2 then 200 else 404) [] (Utf8.encode "[1E2]"), n + 1), fun _ _ _ => none⟩
    let batch : Batch := ⟨.fixed, ⟨"/out"⟩, .default⟩
    let out : Files := ⟨[(["out"], .directory)], []⟩
    let full : Files := ⟨[(["out"], .directory), (["out", "00.json"], .file [0, 1, 2] none)], []⟩
    let a : Site Unit := .start out [] () .unlimited
    let b : Site Unit := .start full [] () .unlimited
    let closed : Sink := ⟨some 1540, some 3, .failure ⟨.custom "closed", rfl⟩, []⟩
    let earlier : Site Nat := .start full [] 0 closed
    let rerun : Site Unit := .start (batch.run old earlier).2.files [] () .unlimited
    net.Stateless ∧ Ready batch a.files a.cwd ∧ Ready batch b.files b.cwd ∧
      Converges net batch a b ∧ Converges net batch a rerun := by
  intro net old batch out full a b closed earlier rerun
  have stateless : net.Stateless := fun _ _ _ => rfl
  have heard : Sink.unlimited.AcceptsAll := ⟨rfl, by decide⟩
  have away : ∀ (key : Key) dir, dir ++ [key.fileName] ≠ ["out"] := by
    intro key dir same
    have name : key.fileName = "out" := by simpa using congrArg List.getLast? same
    have spelled := key.toList_fileName
    simp [name] at spelled
  have readyA : Ready batch a.files a.cwd := by
    refine ready_of_takesAll (by decide +kernel) (fun key dir node there => ?_) rfl
    simp [Files.node?, a, start, out, (away key dir).symm] at there
  have readyB : Ready batch b.files b.cwd := by
    refine ready_of_takesAll (by decide +kernel) (fun key dir node there => ?_) rfl
    by_cases first : dir ++ [key.fileName] = ["out", "00.json"]
    · exact first ▸ .file rfl
    · simp [Files.node?, b, start, full, (away key dir).symm, Ne.symm first] at there
  obtain ⟨converges, again⟩ := run_converges net batch stateless readyA readyB heard heard
  -- The earlier run has to stay a name here, or all of it would be unfolded.
  have behind : ∀ left, left = (batch.run old earlier).2.files →
      Converges net batch a (.start left [] () .unlimited) := fun left same =>
    again old batch earlier (.start left [] () .unlimited) rfl same rfl heard
  exact ⟨stateless, readyA, readyB, converges, behind _ rfl⟩

end Batch

end VectorFetch

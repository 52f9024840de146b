import VectorFetch.Proofs.Batch.Offer
import VectorFetch.Proofs.Batch.Rerun
import VectorFetch.Proofs.Source.Scheme

/-!
# The order of fetches

* `Http.transfer_answer`: a stateless server gives the same response, whatever came before.
* `bare`: an answer without what the transport says about the circumstances of a fault. `Steady`: it
  says the same whatever servers remember.
* `fetchEach`: the fetches of a list of keys, whether they fail or not.
* `Past`, `Past.fetch`: behind any fetches a key is fetched as if it were the first one.
* `Settled`, `fetchEach_order`: the order of fetches makes no difference.
-/

namespace VectorFetch

variable {σ : Type} {net : Network σ}

/-! ## Responses of stateless servers -/

namespace Http

theorem follow_answer (stateless : net.Stateless) (followRedirects : Bool) (hops : Nat)
    (address : Address) (a b : Site σ) : (follow net followRedirects hops address a).1 =
      (follow net followRedirects hops address b).1 := by
  -- Both get the same reply and take the same turn, and each turn spends a redirect. The sites
  -- differ in what was asked before, which no reply depends on.
  induction hops using Nat.strongRecOn generalizing address a b with
  | ind hops ih =>
    rw [follow_eq, follow_eq, stateless b.server a.server]
    cases net.refusal? address with
    | some e => rfl
    | none =>
      dsimp only
      split
      next => rfl
      next left next turned =>
        obtain ⟨rfl, -⟩ := turn_eq_inr turned
        exact ih left (Nat.lt_succ_self left) next _ _

/-- A stateless server gives the same response, whatever came before. What a file of this machine
gives depends on the files. -/
theorem transfer_answer (stateless : net.Stateless) (options : Options) (url : Url) {a b : Site σ}
    (reads : ∀ address, Address.ofText url.text = .ok address → address.scheme = "file" →
      readFile a address = readFile b address) :
    (transfer net options url a).1 = (transfer net options url b).1 := by
  unfold transfer
  split
  next => rfl
  next =>
    split
    next => rfl
    next address spelled =>
      split
      next isFile => exact reads address spelled isFile
      next => exact follow_answer stateless _ _ address a b

end Http

namespace Batch

/-! ## Answers -/

/-- An answer without what the transport says about the circumstances of a fault. -/
def bare {α : Type} : Except FetchError α → Except FetchError α
  | .error (.network e) => .error (.network { e with detail := none })
  | answer => answer

/-- What the transport says about a fault does not depend on what servers remember. -/
def Steady (net : Network σ) : Prop := ∀ a b, net.detail a = net.detail b

variable {batch : Batch} {key : Key} {site here : Site σ}

/-! ## Files of this machine as a source -/

/-- The files that are fetched are files of this machine. -/
def IsLocal (batch : Batch) : Prop :=
  ∃ key url address, batch.source.resource key = .ok url ∧
    Http.Address.ofText url.text = .ok address ∧ address.scheme = "file"

theorem IsLocal.scheme (isLocal : IsLocal batch) {url : Url} {address : Http.Address}
    (found : batch.source.resource key = .ok url)
    (spelled : Http.Address.ofText url.text = .ok address) : address.scheme = "file" := by
  obtain ⟨other, otherUrl, otherAddress, otherFound, otherSpelled, isFile⟩ := isLocal
  obtain ⟨_, same⟩ := batch.source.scheme_eq_file_iff
  rw [same key url address found spelled]
  rwa [same other otherUrl otherAddress otherFound otherSpelled] at isFile

/-- A file of this machine has no status, so nothing is written. -/
theorem IsLocal.files_fetchOne (isLocal : IsLocal batch) (net : Network σ) (key : Key)
    (site : Site σ) : (batch.fetchOne net key site).2.files = site.files := by
  apply fetchOne_files
  intro body value answered
  obtain ⟨url, response, found, success, got, -⟩ := body?_eq_some_iff.1 answered
  rw [Http.get_eq_ok_iff, Http.transfer] at got
  split at got
  next => cases got
  next =>
    split at got
    next => cases got
    next address spelled =>
      rw [if_pos (isLocal.scheme found spelled)] at got
      exact absurd success (Http.not_isSuccess_of_readFile got)

theorem transfer_congr (stateless : net.Stateless) (cwd : here.cwd = site.cwd)
    (still : IsLocal batch → here.files = site.files) {url : Url}
    (found : batch.source.resource key = .ok url) :
    (Http.transfer net batch.http url here).1 = (Http.transfer net batch.http url site).1 := by
  refine Http.transfer_answer stateless batch.http url fun address spelled isFile => ?_
  have files := still ⟨key, url, address, found, spelled, isFile⟩
  simp only [Http.readFile, files, cwd]

/-- What a fetch has to write depends on files alone, and on them only if they are the source. -/
theorem offer_congr (stateless : net.Stateless) (batch : Batch) (key : Key)
    (cwd : here.cwd = site.cwd) (still : IsLocal batch → here.files = site.files) :
    bare (batch.offer net key here) = bare (batch.offer net key site) := by
  unfold offer
  split
  next => rfl
  next url found =>
    -- What is said about a fault may differ, and nothing else.
    rw [(Http.get_eq_transfer net batch.http url here).1,
      (Http.get_eq_transfer net batch.http url site).1, transfer_congr stateless cwd still found]
    cases (Http.transfer net batch.http url site).1 with
    | error fault => rfl
    | ok response => rfl

theorem offer_eq (stateless : net.Stateless) (steady : Steady net) (batch : Batch) (key : Key)
    (cwd : here.cwd = site.cwd) (still : IsLocal batch → here.files = site.files) :
    batch.offer net key here = batch.offer net key site := by
  unfold offer
  split
  next => rfl
  next url found =>
    rw [(Http.get_eq_transfer net batch.http url here).1,
      (Http.get_eq_transfer net batch.http url site).1, transfer_congr stateless cwd still found,
      steady (Http.transfer net batch.http url here).2.server]

theorem deliver_bare (batch : Batch) (key : Key) (files : Files) (cwd : Place)
    (offered : Except FetchError Json.Value) :
    batch.deliver key files cwd (bare offered) =
      (bare (batch.deliver key files cwd offered).1, (batch.deliver key files cwd offered).2) := by
  cases offered with
  | error e => cases e <;> rfl
  | ok value =>
    simp only [deliver, bare]
    cases (files.write cwd (batch.artifactPath key) (Utf8.encode value.pretty)).1 <;> rfl

/-! ## Fetches of many keys -/

/-- The fetches of a list of keys, each of them whether those before it failed or not. -/
def fetchEach (net : Network σ) (batch : Batch) :
    List Key → Site σ → List (Key × Except FetchError Path) × Site σ
  | [], site => ([], site)
  | key :: keys, site =>
    let fetched := batch.fetchOne net key site
    let later := batch.fetchEach net keys fetched.2
    ((key, fetched.1) :: later.1, later.2)

/-- The place of the file of a key. -/
def artifactPlace (batch : Batch) (key : Key) (site : Site σ) : Place :=
  (batch.artifactPath key).target site.cwd

theorem artifactPlace_injective (batch : Batch) (site : Site σ) {a b : Key}
    (same : batch.artifactPlace a site = batch.artifactPlace b site) : a = b :=
  Key.fileName_injective
    (Path.target_join_injective batch.outDir site.cwd a.isName_fileName b.isName_fileName same)

/-- No place is written but that of the file, and that only if its path leads there. -/
theorem node?_fetchOne (net : Network σ) (batch : Batch) (key : Key) (site : Site σ) {place : Place}
    (away : place ≠ batch.artifactPlace key site ∨
      ∀ spot, site.files.locate site.cwd (batch.artifactPath key) ≠ .ok spot) :
    (batch.fetchOne net key site).2.files.node? place = site.files.node? place := by
  apply (fetchOne_confined net batch key site).edits.others
  rintro ⟨_, rfl, located⟩
  rcases away with other | nowhere
  · exact other (Files.place_of_locate located)
  · exact nowhere _ located

/-- What fetches of some keys have left of a site: the file of each key is as its fetch alone would
leave it, and nothing else has changed. -/
structure Past (net : Network σ) (batch : Batch) (site : Site σ) (keys : List Key) (here : Site σ) :
    Prop where
  cwd : here.cwd = site.cwd
  own : ∀ key ∈ keys, here.files.node? (batch.artifactPlace key site) =
    (batch.fetchOne net key site).2.files.node? (batch.artifactPlace key site)
  others : ∀ place, (∀ key ∈ keys, place ≠ batch.artifactPlace key site) →
    here.files.node? place = site.files.node? place
  limits : here.files.limits = site.files.limits
  /-- Files of this machine that are a source are as before. -/
  still : IsLocal batch → here.files = site.files

namespace Past

variable {keys : List Key}

theorem refl (net : Network σ) (batch : Batch) (site : Site σ) : Past net batch site [] site where
  cwd := rfl
  own := nofun
  others _ _ := rfl
  limits := rfl
  still _ := rfl

/-- What is at a place was there before, or one of the fetches alone would leave it there. -/
theorem node?_cases (past : Past net batch site keys here) (place : Place) :
    here.files.node? place = site.files.node? place ∨ ∃ key ∈ keys,
      here.files.node? place = (batch.fetchOne net key site).2.files.node? place := by
  by_cases artifact : ∃ key ∈ keys, place = batch.artifactPlace key site
  · obtain ⟨key, done, same⟩ := artifact
    refine .inr ⟨key, done, ?_⟩
    rw [same]
    exact past.own key done
  · simp only [not_exists, not_and] at artifact
    exact .inl (past.others place artifact)

theorem directory (past : Past net batch site keys here) {place : Place}
    (there : site.files.node? place = some .directory) :
    here.files.node? place = some .directory := by
  obtain same | ⟨key, -, same⟩ := past.node?_cases place
  · rw [same, there]
  · rw [same]
    exact ((fetchOne_confined net batch key site).edits.rewrites _).directory_iff.2 there

theorem locate (past : Past net batch site keys here) (key : Key) :
    here.files.locate site.cwd (batch.artifactPath key) =
      site.files.locate site.cwd (batch.artifactPath key) := by
  by_cases located : ∃ done ∈ keys, ∃ spot,
      site.files.locate site.cwd (batch.artifactPath done) = .ok spot
  · -- One of the files has a place, so the directory of all of them is there.
    obtain ⟨done, -, spot, located⟩ := located
    exact Files.locate_join_congr done.isName_fileName located (fun _ => past.directory)
      key.isName_fileName key.utf8ByteSize_fileName_le
  · -- None of them has one, so nothing was written.
    simp only [not_exists, not_and] at located
    apply Files.locate_congr
    apply Files.walk_congr
    intro place _
    obtain same | ⟨done, member, same⟩ := past.node?_cases place
    · exact same
    · rw [same]
      exact node?_fetchOne net batch done site (.inr (located done member))

/-- The file of a key is as it was, unless the key was fetched before. -/
theorem own_cases (past : Past net batch site keys here) (key : Key) :
    here.files.node? (batch.artifactPlace key site) =
        site.files.node? (batch.artifactPlace key site) ∨
      here.files.node? (batch.artifactPlace key site) =
        (batch.fetchOne net key site).2.files.node? (batch.artifactPlace key site) := by
  by_cases done : key ∈ keys
  · exact .inr (past.own key done)
  · refine .inl (past.others _ fun other member same => done ?_)
    rwa [batch.artifactPlace_injective site same]

/-- Behind any fetches a key is fetched as if it were the first one. -/
theorem fetch (past : Past net batch site keys here) (stateless : net.Stateless) (key : Key) :
    bare (batch.fetchOne net key here).1 = bare (batch.fetchOne net key site).1 ∧
      (batch.fetchOne net key here).2.files.node? (batch.artifactPlace key site) =
        (batch.fetchOne net key site).2.files.node? (batch.artifactPlace key site) := by
  obtain ⟨answerHere, filesHere⟩ := fetchOne_of_offer net batch key here
  obtain ⟨answer, files⟩ := fetchOne_of_offer net batch key site
  have offered := offer_congr stateless batch key past.cwd past.still
  rw [past.cwd] at answerHere filesHere
  have delivered := deliver_bare batch key here.files site.cwd (batch.offer net key here)
  have first := deliver_bare batch key site.files site.cwd (batch.offer net key site)
  rw [offered] at delivered
  rw [← answerHere, ← filesHere] at delivered
  rw [← answer, ← files] at first
  have congr := deliver_congr (bare (batch.offer net key site)) (past.locate key) past.limits
  rw [delivered, first] at congr
  exact congr (past.own_cases key)

theorem fetch_eq (past : Past net batch site keys here) (stateless : net.Stateless)
    (steady : Steady net) (key : Key) :
    (batch.fetchOne net key here).1 = (batch.fetchOne net key site).1 := by
  obtain ⟨answerHere, -⟩ := fetchOne_of_offer net batch key here
  obtain ⟨answer, files⟩ := fetchOne_of_offer net batch key site
  rw [past.cwd, offer_eq stateless steady batch key past.cwd past.still] at answerHere
  have congr := deliver_congr (batch.offer net key site) (past.locate key) past.limits
  rw [← answerHere, ← answer, ← files] at congr
  exact (congr (past.own_cases key)).1

theorem step (past : Past net batch site keys here) (stateless : net.Stateless) (key : Key) :
    Past net batch site (key :: keys) (batch.fetchOne net key here).2 where
  cwd := (fetchOne_worked net batch key here).cwd.trans past.cwd
  own other done := by
    by_cases same : other = key
    · subst same
      exact (past.fetch stateless other).2
    · have away : batch.artifactPlace other site ≠ batch.artifactPlace key here := by
        rw [artifactPlace, artifactPlace, past.cwd]
        exact fun places => same (batch.artifactPlace_injective site places)
      rw [node?_fetchOne net batch key here (.inl away)]
      exact past.own other ((List.mem_cons.1 done).resolve_left same)
  others place away := by
    obtain ⟨here', later⟩ := List.forall_mem_cons.1 away
    rw [artifactPlace, ← past.cwd] at here'
    rw [node?_fetchOne net batch key here (.inl here'), past.others place later]
  limits := (fetchOne_confined net batch key here).edits.limits.trans past.limits
  still isLocal := (isLocal.files_fetchOne net key here).trans (past.still isLocal)

end Past

/-! ## The order of fetches -/

/-- What becomes of the fetches of a list of keys. -/
structure Settled (net : Network σ) (batch : Batch) (site : Site σ) (keys : List Key)
    (ended : List (Key × Except FetchError Path) × Site σ) : Prop where
  /-- Each key has the answer that it has alone, whether others fail or not. The transport may say
  something else about the same fault. -/
  answers : ended.1.map (Prod.map id bare) =
    keys.map fun key => (key, bare (batch.fetchOne net key site).1)
  /-- The file of each key is as its fetch alone leaves it. -/
  own : ∀ key ∈ keys, ended.2.files.node? (batch.artifactPlace key site) =
    (batch.fetchOne net key site).2.files.node? (batch.artifactPlace key site)
  others : ∀ place, (∀ key ∈ keys, place ≠ batch.artifactPlace key site) →
    ended.2.files.node? place = site.files.node? place

theorem fetchEach_past (stateless : net.Stateless) {done : List Key}
    (past : Past net batch site done here) (keys : List Key) :
    (batch.fetchEach net keys here).1.map (Prod.map id bare) =
        keys.map (fun key => (key, bare (batch.fetchOne net key site).1)) ∧
      Past net batch site (keys.reverse ++ done) (batch.fetchEach net keys here).2 := by
  induction keys generalizing done here with
  | nil => exact ⟨rfl, past⟩
  | cons key keys ih =>
    obtain ⟨answers, later⟩ := ih (past.step stateless key)
    rw [List.reverse_cons, List.append_assoc]
    refine ⟨?_, later⟩
    rw [fetchEach, List.map_cons, answers, Prod.map, (past.fetch stateless key).1]
    rfl

theorem fetchEach_answers (stateless : net.Stateless) (steady : Steady net) {done : List Key}
    (past : Past net batch site done here) (keys : List Key) :
    (batch.fetchEach net keys here).1 =
      keys.map fun key => (key, (batch.fetchOne net key site).1) := by
  induction keys generalizing done here with
  | nil => rfl
  | cons key keys ih =>
    rw [fetchEach, List.map_cons, ih (past.step stateless key), past.fetch_eq stateless steady key]

theorem fetchEach_settled (stateless : net.Stateless) (batch : Batch) (site : Site σ)
    (keys : List Key) : Settled net batch site keys (batch.fetchEach net keys site) := by
  obtain ⟨answers, past⟩ := fetchEach_past stateless (.refl net batch site) keys
  refine ⟨answers, fun key member => past.own key ?_, fun place away => past.others place ?_⟩
  · simpa using member
  · simpa using away

theorem Settled.node?_eq {keys keys' : List Key}
    {a b : List (Key × Except FetchError Path) × Site σ} (settledA : Settled net batch site keys a)
    (settledB : Settled net batch site keys' b) (same : ∀ key, key ∈ keys ↔ key ∈ keys')
    (place : Place) : a.2.files.node? place = b.2.files.node? place := by
  by_cases artifact : ∃ key ∈ keys, place = batch.artifactPlace key site
  · obtain ⟨key, member, here⟩ := artifact
    rw [here, settledA.own key member, settledB.own key ((same key).1 member)]
  · simp only [not_exists, not_and] at artifact
    rw [settledA.others place artifact]
    exact (settledB.others place fun key member => artifact key ((same key).2 member)).symm

/-- Where servers answer each request alike, the order of fetches makes no difference: each key has
the answer that it has alone, but for what the transport says about the circumstances of a fault,
and the same files are left. Keys that fail are no exception, and a key may come more than once. -/
theorem fetchEach_order (stateless : net.Stateless) (batch : Batch) (site : Site σ) :
    (∀ keys, Settled net batch site keys (batch.fetchEach net keys site)) ∧
    (Steady net → ∀ keys, (batch.fetchEach net keys site).1 =
      keys.map fun key => (key, (batch.fetchOne net key site).1)) ∧
    (∀ keys keys' : List Key, keys.Perm keys' →
      ((batch.fetchEach net keys site).1.map (Prod.map id bare)).Perm
          ((batch.fetchEach net keys' site).1.map (Prod.map id bare)) ∧
        ∀ place, (batch.fetchEach net keys site).2.files.node? place =
          (batch.fetchEach net keys' site).2.files.node? place) ∧
    ∀ a b, let behind := (batch.fetchOne net a site).2
      let behind' := (batch.fetchOne net b site).2
      bare (batch.fetchOne net b behind).1 = bare (batch.fetchOne net b site).1 ∧
        bare (batch.fetchOne net a behind').1 = bare (batch.fetchOne net a site).1 ∧
        ∀ place, (batch.fetchOne net b behind).2.files.node? place =
          (batch.fetchOne net a behind').2.files.node? place := by
  have settled := fetchEach_settled stateless batch site
  refine ⟨settled, fun steady => fetchEach_answers stateless steady (.refl net batch site),
    fun keys keys' perm => ⟨?_, ?_⟩, fun a b => ⟨?_, ?_, ?_⟩⟩
  · -- What is settled is told by the keys one by one, so that their order is not in it.
    rw [(settled keys).answers, (settled keys').answers]
    exact perm.map _
  · exact (settled keys).node?_eq (settled keys') fun key => perm.mem_iff
  · exact ((Past.refl net batch site).step stateless a |>.fetch stateless b).1
  · exact ((Past.refl net batch site).step stateless b |>.fetch stateless a).1
  · exact (settled [a, b]).node?_eq (settled [b, a]) fun key => (List.Perm.swap b a []).mem_iff

/-- One of the keys is missing, and the other one comes twice. -/
theorem fetchEach_order_of_missing :
    let net : Network Unit := ⟨fun _ => none, fun _ request =>
      (.message (if request.target.endsWith "/01.json" then 404 else 200) []
        (Utf8.encode ("\"" ++ request.target ++ "\"")), ()), fun _ _ _ => none⟩
    let batch : Batch := ⟨.fixed, ⟨"/out"⟩, .default⟩
    let site : Site Unit := .start ⟨[(["out"], .directory)], []⟩ [] () .unlimited
    let zero : Key := .ofNat 0
    let one : Key := .ofNat 1
    net.Stateless ∧ Steady net ∧ [one, zero, zero].Perm [zero, one, zero] ∧
      (batch.fetchEach net [one, zero, zero] site).1 = [(one, .error (.status 404)),
        (zero, .ok ⟨"/out/00.json"⟩), (zero, .ok ⟨"/out/00.json"⟩)] ∧
      Settled net batch site [one, zero, zero] (batch.fetchEach net [one, zero, zero] site) ∧
      (batch.fetchEach net [one, zero, zero] site).1 =
        [one, zero, zero].map (fun key => (key, (batch.fetchOne net key site).1)) ∧
      ∀ place, (batch.fetchEach net [one, zero, zero] site).2.files.node? place =
        (batch.fetchEach net [zero, one, zero] site).2.files.node? place := by
  intro net batch site zero one
  have stateless : net.Stateless := fun _ _ _ => rfl
  have swapped : [one, zero, zero].Perm [zero, one, zero] := .swap zero one [zero]
  have steady : Steady net := fun _ _ => rfl
  obtain ⟨settled, alone, ordered, -⟩ := fetchEach_order stateless batch site
  exact ⟨stateless, steady, swapped, by decide +kernel, settled _, alone steady _,
    (ordered _ _ swapped).2⟩

end Batch

end VectorFetch

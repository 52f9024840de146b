import VectorFetch.Failure.Chain
import VectorFetch.Proofs.Artifact.Limits
import VectorFetch.Proofs.Batch.Run
import VectorFetch.Proofs.Batch.Stages
import VectorFetch.Proofs.History
import VectorFetch.Proofs.Key.Text

/-!
# What an error is due to

* `Link.cause?_chain`, `Link.nodup_chain`: a chain goes from cause to cause, and no link is there
  twice.
* `Link.isWrapper_of_mem_tail`: no error that stands for another one is behind the first.
* `FetchError.chain_eq`, `BatchError.chain_key`, `BatchError.chain_output`: what chains say.
* `BatchError.nodup_chain`: no text is there twice, unless a writer gives a reason of its own.
* `Batch.Arises`, `Batch.run_arises`: where the error of a run comes from.
* `BatchError.linked`: the chain of every error that may end a run.
-/

namespace VectorFetch

/-! ## Links -/

namespace Link

theorem chain_of_none {link : Link} (last : link.cause? = none) : link.chain = [link] := by
  rw [chain_eq, last]
  rfl

theorem chain_of_some {link cause : Link} (due : link.cause? = some cause) :
    link.chain = link :: cause.chain := by
  rw [chain_eq, due]
  rfl

theorem head?_chain (link : Link) : link.chain[0]? = some link := by
  rw [chain_eq]
  rfl

/-- Each link is due to the next one, and the last one to nothing. -/
theorem cause?_chain {link earlier : Link} {i : Nat} (there : link.chain[i]? = some earlier) :
    earlier.cause? = link.chain[i + 1]? := by
  -- By induction along the chain: a place behind the first is one less in the chain of the cause.
  induction link using chain.induct generalizing i with
  | case1 link last =>
    rw [chain_of_none last] at there ⊢
    cases i with
    | zero =>
      cases there
      exact last
    | succ i => cases there
  | case2 link cause due ih =>
    rw [chain_of_some due] at there ⊢
    cases i with
    | zero =>
      cases there
      exact due.trans (head?_chain cause).symm
    | succ i => exact ih there

theorem rank_of_mem_chain {link later : Link} (there : later ∈ link.chain) :
    later.rank ≤ link.rank := by
  induction link using chain.induct with
  | case1 link last =>
    rw [chain_of_none last, List.mem_singleton] at there
    rw [there]
  | case2 link cause due ih =>
    rw [chain_of_some due, List.mem_cons] at there
    rcases there with rfl | behind
    · exact Nat.le_refl _
    · exact Nat.le_trans (ih behind) (Nat.le_of_lt (rank_of_cause? due))

theorem pairwise_chain (link : Link) :
    link.chain.Pairwise fun earlier later => later.rank < earlier.rank := by
  induction link using chain.induct with
  | case1 link last =>
    rw [chain_of_none last]
    exact List.pairwise_singleton _ _
  | case2 link cause due ih =>
    rw [chain_of_some due]
    refine .cons (fun later there => ?_) ih
    exact Nat.lt_of_le_of_lt (rank_of_mem_chain there) (rank_of_cause? due)

/-- Ranks fall along a chain, so nothing comes back. -/
theorem nodup_chain (link : Link) : link.chain.Nodup :=
  (pairwise_chain link).imp fun less same => Nat.ne_of_gt less (congrArg rank same)

/-! ## Input and output errors -/

theorem message_foreign? (causes : List String) :
    ((foreign? causes).elim [] chain).map message = causes := by
  induction causes with
  | nil => rfl
  | cons text causes ih =>
    rw [foreign?, Option.elim_some, chain_eq, List.map_cons]
    exact congrArg (text :: ·) ih

theorem message_io (error : IoError) : (Link.io error).chain.map message = error.chain := by
  rw [chain_eq, List.map_cons]
  exact congrArg (error.message :: ·) (message_foreign? error.causes)

theorem chain_io (path : Path) (error : IoError) :
    (Link.fetch (.io path error)).chain = .fetch (.io path error) :: (Link.io error).chain :=
  chain_of_some rfl

/-! ## Errors that stand for another one -/

/-- An error of a run or at a key, and that of a document which a sink refused. Each of them may
stand for another error. -/
def isWrapper : Link → Bool
  | .batch _ | .failure _ | .document (.io _) => true
  | _ => false

theorem isWrapper_of_foreign? {causes : List String} {cause : Link}
    (named : foreign? causes = some cause) : cause.isWrapper = false := by
  cases causes with
  | nil => cases named
  | cons text causes =>
    cases named
    rfl

/-- No cause stands for another error: it is given as that other one. -/
theorem isWrapper_of_cause? {link cause : Link} (due : link.cause? = some cause) :
    cause.isWrapper = false := by
  cases link with
  | batch error =>
    cases error with
    | key | output =>
      cases due
      rfl
  | failure =>
    cases due
    rfl
  | fetch error =>
    cases error with
    | status => cases due
    | network | json | io | url =>
      cases due
      rfl
  | document error =>
    cases error with
    | io => exact isWrapper_of_foreign? due
    | document => cases due
  | io => exact isWrapper_of_foreign? due
  | transfer | url => cases due
  | foreign => exact isWrapper_of_foreign? due

theorem isWrapper_of_mem_tail {link later : Link} (there : later ∈ link.chain.tail) :
    later.isWrapper = false := by
  induction link using chain.induct with
  | case1 link last =>
    rw [chain_of_none last] at there
    cases there
  | case2 link cause due ih =>
    rw [chain_of_some due, List.tail_cons, chain_eq, List.mem_cons] at there
    rcases there with rfl | behind
    · exact isWrapper_of_cause? due
    · refine ih ?_
      rwa [chain_eq, List.tail_cons]

end Link

/-! ## Errors of a fetch -/

namespace FetchError

/-- What the underlying error of a fetch says, and what its causes say. -/
def underlying : FetchError → List String
  | .network error => [error.message]
  | .status _ => []
  | .json error => [error.message]
  | .io _ error => error.chain
  | .url fault => [fault.message]

theorem chain_of_due {error : FetchError} (cause : Link)
    (due : (Link.fetch error).cause? = some cause) (last : cause.cause? = none) :
    error.chain = [error.message, cause.message] := by
  rw [chain, Link.chain_of_some due, Link.chain_of_none last]
  rfl

theorem chain_eq (error : FetchError) : error.chain = error.message :: error.underlying := by
  cases error with
  | network e => exact chain_of_due (.transfer e) rfl rfl
  | status code =>
    rw [chain, Link.chain_of_none rfl]
    rfl
  | json e => exact chain_of_due (.document (.document e)) rfl rfl
  | io path e =>
    rw [chain, Link.chain_io, List.map_cons, Link.message_io]
    rfl
  | url fault => exact chain_of_due (.url fault) rfl rfl

/-- Errors that differ in nothing but the underlying error. -/
inductive Akin : FetchError → FetchError → Prop where
  | network (a b : Http.TransferError) : Akin (.network a) (.network b)
  | status (code : Nat) : Akin (.status code) (.status code)
  | json (a b : Json.Error) : Akin (.json a) (.json b)
  | io (path : Path) (a b : IoError) : Akin (.io path a) (.io path b)
  | url (a b : Url.Fault) : Akin (.url a) (.url b)

theorem Akin.message_eq {a b : FetchError} (akin : Akin a b) : a.message = b.message := by
  cases akin <;> rfl

end FetchError

/-! ## Errors of a run -/

namespace BatchError

theorem links_key (failure : KeyFailure) : (Link.batch (.key failure)).chain =
    .batch (.key failure) :: (Link.fetch failure.error).chain :=
  Link.chain_of_some rfl

theorem links_output (error : IoError) :
    (Link.batch (.output error)).chain = .batch (.output error) :: (Link.io error).chain :=
  Link.chain_of_some rfl

theorem chain_key (failure : KeyFailure) :
    (BatchError.key failure).chain = ("key " ++ failure.key.text) :: failure.error.chain := by
  rw [chain, links_key]
  rfl

theorem chain_output (error : IoError) :
    (BatchError.output error).chain = "progress output" :: error.chain := by
  rw [chain, links_output, List.map_cons, Link.message_io]
  rfl

theorem take_chain_of_akin (key : Key) {a b : FetchError} (akin : a.Akin b) :
    (BatchError.key ⟨key, a⟩).chain.take 2 = (BatchError.key ⟨key, b⟩).chain.take 2 := by
  simp only [chain_key, FetchError.chain_eq, akin.message_eq, List.take_succ_cons, List.take_zero]

/-- A run that ends with a failure says what the failure says. -/
theorem chain_failure (failure : KeyFailure) : (BatchError.key failure).chain = failure.chain := by
  rw [chain_key, KeyFailure.chain, Link.chain_of_some rfl]
  rfl

theorem links_io (key : Key) (path : Path) (io : IoError) :
    (Link.batch (.key ⟨key, .io path io⟩)).chain =
      .batch (.key ⟨key, .io path io⟩) :: .fetch (.io path io) :: (Link.io io).chain := by
  rw [links_key, Link.chain_io]

theorem links_of_writeThrough {key : Key} {path : Path} {value : Json.Value} {sink : Sink}
    {error : FetchError} (failed : (Artifact.writeThrough path value sink).1 = .error error) :
    ∃ io, (Link.batch (.key ⟨key, error⟩)).chain =
        .batch (.key ⟨key, error⟩) :: .fetch (.io path io) :: (Link.io io).chain ∧
      (sink.perCall ≠ some 0 → (sink.takeAll (Utf8.encode value.pretty)).1 = .error io) := by
  have bare : ∃ io, error = .io path io := by
    -- The document is refused, or the flush behind it.
    unfold Artifact.writeThrough at failed
    split at failed
    next e b put =>
      cases failed
      exact ⟨e, rfl⟩
    next b put =>
      split at failed
      next e b flushed =>
        cases failed
        exact ⟨e, rfl⟩
      next => cases failed
  obtain ⟨io, rfl⟩ := bare
  refine ⟨io, links_io key path io, fun calls => ?_⟩
  -- It is the error of the sink, as if there were no buffer.
  rw [Artifact.writeThrough_eq path value calls] at failed
  generalize (sink.takeAll (Utf8.encode value.pretty)).1 = answer at failed ⊢
  cases answer with
  | ok => cases failed
  | error own =>
    cases failed
    rfl

end BatchError

/-! ## Texts -/

theorem head?_ne {a b : String} (other : a.toList.head? ≠ b.toList.head?) : a ≠ b :=
  fun same => other (congrArg (fun text : String => text.toList.head?) same)

theorem Utf8.encode_eq_data (s : String) : encode s = s.toByteArray.data.toList := by
  rw [← String.utf8Encode_toList, List.utf8Encode, List.toList_data_toByteArray]
  rfl

theorem Utf8.head?_encode {s : String} {c : Char} (initial : s.toList.head? = some c) :
    (encode s).head? = (String.utf8EncodeChar c).head? := by
  obtain ⟨cs, text⟩ := List.head?_eq_some_iff.1 initial
  have written : String.utf8EncodeChar c ≠ [] := by simp
  obtain ⟨b, rest, bytes⟩ := List.exists_cons_of_ne_nil written
  rw [encode, text, encodeChars_cons, bytes]
  rfl

namespace IoError

/-- A writer gave a reason of its own. -/
def isCustom : IoError → Bool
  | .custom _ _ => true
  | _ => false

/-- The letters that errors begin with which may be due to one of the system. -/
def initials : List Char := ['k', 'p', 'w']

theorem head?_of_mem_systemTexts {text : String} (listed : text ∈ systemTexts) :
    ∀ c ∈ initials, text.toList.head? ≠ some c := by
  -- Bytes are compared since it is long work to read the letters of all the texts.
  have others : systemTexts.all fun text => initials.all fun c =>
      text.toByteArray.data.toList.head? != (String.utf8EncodeChar c).head? := by decide +kernel
  intro c there begins
  have other := List.all_eq_true.1 (List.all_eq_true.1 others text listed) c there
  rw [← Utf8.encode_eq_data, Utf8.head?_encode begins, bne_self_eq_false] at other
  cases other

theorem head?_systemText (code : Int) :
    ∀ c ∈ initials, (systemText code).toList.head? ≠ some c := by
  unfold systemText
  split
  next n =>
    split
    next => simp [initials, toString]
    next text named found => exact head?_of_mem_systemTexts (List.mem_of_getElem? found)
    next => simp [initials, toString]
  next => simp [initials, toString]

variable {error : IoError}

theorem head?_message (common : error.isCustom = false) :
    ∀ c ∈ initials, error.message.toList.head? ≠ some c := by
  cases error with
  | os code =>
    have others := head?_systemText code
    cases letters : (systemText code).toList with
    | nil => simp [initials, message, toString, letters]
    | cons d rest =>
      rw [letters] at others
      simpa [message, toString, letters] using others
  | nulInName | notText | nothingTaken => simp [initials, message]
  | custom => cases common

theorem chain_of_common (common : error.isCustom = false) : error.chain = [error.message] := by
  cases error with
  | custom => cases common
  | _ => rfl

end IoError

/-- The place of a fault makes its message longer than that of any error due to it. -/
theorem Json.Error.length_message (e : Json.Error) : 12 < e.message.toList.length := by
  simp [Json.Error.message, toString]
  omega

theorem KeyFailure.ne_message {failure : KeyFailure} {text : String}
    (other : text.toList.head? ≠ some 'k' ∨ text.toList.length ≠ 6) : text ≠ failure.message := by
  have initial : failure.message.toList.head? = some 'k' := by
    simp [KeyFailure.message, toString]
  have length : failure.message.toList.length = 6 := by
    simp [KeyFailure.message, toString, Key.toList_text]
  rintro rfl
  exact other.elim (absurd initial) (absurd length)

namespace FetchError

/-- The input or output error behind an error, if there is one. -/
def io? : FetchError → Option IoError
  | .io _ error => some error
  | _ => none

variable {error : FetchError}

theorem ne_of_mem_underlying (common : ∀ io, error.io? = some io → io.isCustom = false)
    (key : Key) {text : String} (there : text ∈ error.underlying) :
    text ≠ error.message ∧ text ≠ (KeyFailure.mk key error).message := by
  cases error with
  | network e =>
    obtain rfl := List.mem_singleton.1 there
    have initial : e.message.toList.head? = some '[' := by
      unfold Http.TransferError.message
      split
      next => simp [toString]
      next => simp [toString]
    refine ⟨head?_ne ?_, KeyFailure.ne_message (.inl ?_)⟩
    · simp [initial, message]
    · simp [initial]
  | status => cases there
  | json e =>
    -- A fault may begin like any of them, so that lengths are compared.
    obtain rfl := List.mem_singleton.1 there
    have longer := e.length_message
    refine ⟨fun same => ?_, KeyFailure.ne_message (.inr (by omega))⟩
    rw [same] at longer
    simp [message] at longer
  | io path e =>
    have others := IoError.head?_message (common e rfl)
    rw [underlying, IoError.chain_of_common (common e rfl)] at there
    obtain rfl := List.mem_singleton.1 there
    refine ⟨head?_ne ?_, KeyFailure.ne_message (.inl (others 'k' (by decide)))⟩
    simpa [message, toString] using others 'w' (by decide)
  | url fault =>
    obtain rfl := List.mem_singleton.1 there
    refine ⟨?_, KeyFailure.ne_message (.inl ?_)⟩
    · cases fault <;> decide
    · cases fault <;> decide

theorem message_ne (error : FetchError) (key : Key) :
    error.message ≠ (KeyFailure.mk key error).message :=
  KeyFailure.ne_message (.inl (by cases error <;> simp [message, toString]))

theorem nodup_underlying (common : ∀ io, error.io? = some io → io.isCustom = false) :
    error.underlying.Nodup := by
  cases error with
  | io path e =>
    rw [underlying, IoError.chain_of_common (common e rfl)]
    exact List.pairwise_singleton _ _
  | status => exact .nil
  | network | json | url => exact List.pairwise_singleton _ _

end FetchError

namespace BatchError

/-- The input or output error behind an error, if there is one. -/
def io? : BatchError → Option IoError
  | .key failure => failure.error.io?
  | .output error => some error

theorem nodup_chain {e : BatchError} (common : ∀ io, e.io? = some io → io.isCustom = false) :
    e.chain.Nodup := by
  cases e with
  | key failure =>
    rw [chain_key, FetchError.chain_eq, List.nodup_cons, List.nodup_cons, List.mem_cons, not_or]
    refine ⟨⟨(failure.error.message_ne failure.key).symm, fun there => ?_⟩, fun there => ?_,
      FetchError.nodup_underlying common⟩
    · exact (FetchError.ne_of_mem_underlying common failure.key there).2 rfl
    · exact (FetchError.ne_of_mem_underlying common failure.key there).1 rfl
  | output error =>
    have others := IoError.head?_message (common error rfl)
    rw [chain_output, IoError.chain_of_common (common error rfl), List.nodup_cons, List.mem_singleton]
    refine ⟨head?_ne ?_, List.pairwise_singleton _ _⟩
    simpa [eq_comm] using others 'p' (by decide)

end BatchError

/-! ## Runs -/

variable {σ : Type}

theorem Site.printAll_of_stuck {site : Site σ} {io : IoError}
    (refuses : ∀ bytes ≠ [], site.progress.takeAll bytes = (.error io, site.progress))
    {pieces : List Bytes} (filled : pieces.flatten ≠ []) :
    (site.printAll pieces).1 = .error io := by
  induction pieces generalizing site with
  | nil => exact absurd rfl filled
  | cons piece rest ih =>
    by_cases empty : piece = []
    · -- An empty piece needs no call.
      have taken : site.progress.takeAll [] = (.ok (), site.progress) := by rw [Sink.takeAll]
      subst empty
      simp only [printAll, print, taken]
      exact ih refuses filled
    · simp only [printAll, print, refuses piece empty]

namespace Batch

/-- Where the error that ends a run comes from. -/
inductive Arises (net : Network σ) (batch : Batch) (site : Site σ) : BatchError → Prop where
  /-- That of the first fetch that fails. An input or output error is what the file system answered
  for the file of the key. -/
  | fetch {error : FetchError}
      (fails : batch.attempt net site (batch.stop net site) = .error error)
      (refused : ∀ path io, error = .io path io →
        path = batch.artifactPath (.ofNat (batch.stop net site)) ∧ ∃ bytes,
          ((batch.before net site (batch.stop net site)).files.write site.cwd path bytes).1 =
            .error io) :
      Arises net batch site (.key ⟨.ofNat (batch.stop net site), error⟩)
  /-- What the sink for progress answered. -/
  | progress {io : IoError} {bytes : Bytes}
      (refused : (site.progress.takeAll bytes).1 = .error io) : Arises net batch site (.output io)

variable {net : Network σ} {batch : Batch} {site : Site σ}

theorem arises_of_attempt {error : FetchError}
    (fails : batch.attempt net site (batch.stop net site) = .error error) :
    Arises net batch site (.key ⟨.ofNat (batch.stop net site), error⟩) := by
  refine .fetch fails fun path io same => ?_
  subst same
  have reports := fetchOne_reports net batch (.ofNat (batch.stop net site))
    (batch.before net site (batch.stop net site))
  rw [fetchOne_before] at reports
  obtain ⟨own, response, value, -, -, -, refused⟩ := (reports.io path io).1 fails
  rw [cwd_before, ← own] at refused
  exact ⟨own, _, refused⟩

/-- A run stops at once where no call takes anything of its progress. -/
theorem runOver_of_stuck (net : Network σ) (batch : Batch) (keys : List Key) {io : IoError}
    (refuses : ∀ bytes ≠ [], site.progress.takeAll bytes = (.error io, site.progress))
    {announcement : List Bytes} (filled : announcement.flatten ≠ []) :
    (batch.runOver net announcement keys site).1 = .error (.output io) := by
  have printed := Site.printAll_of_stuck refuses filled
  unfold runOver
  generalize site.printAll announcement = announced at printed ⊢
  obtain ⟨answer, after⟩ := announced
  cases printed
  rfl

theorem arises_of_stuck (stuck : site.progress.perCall = some 0) {e : BatchError}
    (failed : (batch.run net site).1 = .error e) : Arises net batch site e := by
  obtain ⟨io, refuses⟩ := Sink.takeAll_of_stuck stuck
  have filled : keyListPieces.flatten ≠ [] := by
    rw [flatten_keyListPieces]
    exact transcript_ne_nil 0
  rw [run, runOver_of_stuck net batch Key.all refuses filled] at failed
  cases failed
  exact .progress (congrArg Prod.fst (refuses _ filled))

/-- The error of a run is that of its first fetch that fails, or that of the sink for progress. -/
theorem run_arises {e : BatchError} (failed : (batch.run net site).1 = .error e) :
    Arises net batch site e := by
  by_cases stuck : site.progress.perCall = some 0
  · exact arises_of_stuck stuck failed
  · have outcome := run_outcome net batch stuck
    generalize batch.run net site = ended at failed outcome
    cases outcome with
    | heard verdict =>
      cases verdict with
      | failed stops fails =>
        cases failed
        exact arises_of_attempt fails
      | complete => cases failed
    -- A transcript was refused.
    | unannounced alike refused =>
      cases failed
      exact .progress (congrArg Prod.fst refused)
    | unheard fetched alike accepted refused =>
      cases failed
      exact .progress (congrArg Prod.fst refused)

end Batch

namespace BatchError

/-- The chain of an error that ends a run. -/
structure Linked (e : BatchError) : Prop where
  /-- Each link is due to the next one, and the last one to nothing. -/
  due : ∀ i link, (Link.batch e).chain[i]? = some link →
    link.cause? = (Link.batch e).chain[i + 1]?
  once : (Link.batch e).chain.Nodup
  /-- Nor is a text there twice, unless a writer gives a reason of its own. -/
  common : (∀ io, e.io? = some io → io.isCustom = false) → e.chain.Nodup
  /-- What stands for another error adds no link behind the first. -/
  bare : ∀ link ∈ (Link.batch e).chain.tail, link.isWrapper = false
  key : ∀ failure, e = .key failure →
    (Link.batch e).chain = .batch e :: (Link.fetch failure.error).chain ∧
    e.chain = ("key " ++ failure.key.text) :: failure.error.chain ∧
    failure.error.chain = failure.error.message :: failure.error.underlying ∧
    failure.chain = e.chain
  /-- What is said before the underlying error is the same for any other one. -/
  apart : ∀ failure other, e = .key failure → failure.error.Akin other →
    (BatchError.key ⟨failure.key, other⟩).chain.take 2 = e.chain.take 2
  output : ∀ error, e = .output error →
    (Link.batch e).chain = .batch e :: (Link.io error).chain ∧
    e.chain = "progress output" :: error.chain
  /-- What refused a document is a link, but not the document that says so. -/
  written : ∀ (w : WriteError) key path, w.isIo → e = .key ⟨key, w.fetchError path⟩ →
    ∃ io, w = .io io ∧
      (Link.batch e).chain = .batch e :: .fetch (.io path io) :: (Link.io io).chain
  /-- So it is with what refused it behind a buffer. -/
  buffered : ∀ key path value sink error,
    (Artifact.writeThrough path value sink).1 = .error error → e = .key ⟨key, error⟩ →
    ∃ io, (Link.batch e).chain = .batch e :: .fetch (.io path io) :: (Link.io io).chain ∧
      (sink.perCall ≠ some 0 → (sink.takeAll (Utf8.encode value.pretty)).1 = .error io)

/-- Whatever ends a run, its chain has one link for each cause and none twice, and it is what a
fetch or the sink for progress answered. -/
theorem linked (e : BatchError) : Linked e ∧
    ∀ {σ : Type} (net : Network σ) (batch : Batch) (site : Site σ),
      (batch.run net site).1 = .error e → Batch.Arises net batch site e := by
  refine ⟨{
    due := fun i link there => Link.cause?_chain there
    once := Link.nodup_chain _
    common := nodup_chain
    bare := fun link there => Link.isWrapper_of_mem_tail there
    key := ?_
    apart := ?_
    output := ?_
    written := ?_
    buffered := ?_ }, fun net batch site failed => Batch.run_arises failed⟩
  · rintro failure rfl
    exact ⟨links_key failure, chain_key failure, FetchError.chain_eq _,
      (chain_failure failure).symm⟩
  · rintro failure other rfl akin
    exact (take_chain_of_akin failure.key akin).symm
  · rintro error rfl
    exact ⟨links_output error, chain_output error⟩
  · rintro (io | fault) key path isIo rfl
    · exact ⟨io, rfl, links_io key path io⟩
    · cases isIo
  · rintro key path value sink error failed rfl
    exact links_of_writeThrough failed

/-- A device that is full. -/
theorem linked_of_full_device :
    let net : Network Unit :=
      ⟨fun _ => none, fun _ _ => (.message 200 [] (Utf8.encode "[]"), ()), fun _ _ _ => none⟩
    let batch : Batch := ⟨.fixed, ⟨"/out"⟩, .default⟩
    let files : Files :=
      ⟨[(["out"], .directory), (["out", "00.json"], .file [] (some (0, ⟨.os 28, rfl⟩)))], []⟩
    let site : Site Unit := .start files [] () .unlimited
    let path : Path := ⟨"/out/00.json"⟩
    let e : BatchError := .key ⟨.ofNat 0, .io path (.os 28)⟩
    (batch.run net site).1 = .error e ∧ Batch.Arises net batch site e ∧
      e.chain = ["key 00", "write /out/00.json", "No space left on device (os error 28)"] ∧
      e.chain.Nodup ∧
      (Link.batch e).chain = [.batch e, .fetch (.io path (.os 28)), .io (.os 28)] := by
  intro net batch files site path e
  have stops : batch.stop net site = 0 := by decide +kernel
  have fails : batch.attempt net site 0 = .error (.io path (.os 28)) := by decide +kernel
  -- The first key fails, so that nothing else of the run is evaluated.
  have failed : (batch.run net site).1 = .error e := by
    have verdict := Batch.Verdict.failed (by rw [stops]; decide) (stops.symm ▸ fails)
    rw [stops] at verdict
    exact (Batch.verdict_of_room net batch rfl (by decide)).1.unique verdict
  obtain ⟨chained, arises⟩ := linked e
  obtain ⟨links, texts, own, -⟩ := chained.key _ rfl
  refine ⟨failed, arises net batch site failed, ?_, chained.common ?_, ?_⟩
  · rw [texts, own]
    decide +kernel
  · rintro io ⟨⟩
    rfl
  · obtain ⟨io, same, bare⟩ := chained.written (.io (.os 28)) (.ofNat 0) path rfl rfl
    cases same
    rw [bare, Link.chain_of_none rfl]

end BatchError

end VectorFetch

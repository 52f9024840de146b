import VectorFetch.Batch
import VectorFetch.Proofs.Json.Places
import VectorFetch.Proofs.Http.Transfer

/-!
# The fetch of one file

* `Batch.body?`: the body that a fetch is about.
* `fetchOne_of_accepted`: a body that is a document is written, and nothing else can fail.
* `fetchOne_same`, `fetchOne_worked`: a fetch does not look at progress, and it works on files
  of its own name.
* `fetchOne_content`, `fetchOne_literals`: the file has the tokens of the body, and its number
  literals in their places.
-/

namespace VectorFetch.Batch

open Site Json

variable {σ : Type} {net : Network σ} {batch : Batch} {key : Key} {site : Site σ}

/-- The body of the response for a key, if its status says that the request succeeded. -/
def body? (net : Network σ) (batch : Batch) (key : Key) (site : Site σ) : Option Bytes :=
  match batch.source.resource key with
  | .error _ => none
  | .ok url =>
    match (Http.get net batch.http url site).1 with
    | .error _ => none
    | .ok response => if response.isSuccess then some response.body else none

theorem body?_eq_some_iff {body : Bytes} : batch.body? net key site = some body ↔
    ∃ url response, batch.source.resource key = .ok url ∧ response.isSuccess ∧
      (Http.get net batch.http url site).1 = .ok response ∧ response.body = body := by
  unfold body?
  cases batch.source.resource key with
  | error fault => simp
  | ok url =>
    cases got : (Http.get net batch.http url site).1 with
    | error e => simp [got]
    | ok response =>
      simp only [got, Option.ite_none_right_eq_some, Option.some.injEq, Except.ok.injEq]
      constructor
      · rintro ⟨success, rfl⟩
        exact ⟨url, response, rfl, success, got, rfl⟩
      · rintro ⟨_, _, rfl, success, got', rfl⟩
        obtain rfl := Except.ok.inj (got.symm.trans got')
        exact ⟨success, rfl⟩

/-! ## What a fetch does -/

theorem fetchOne_of_error {url : Url} {e : Http.TransferError} {asked : Site σ}
    (found : batch.source.resource key = .ok url)
    (got : Http.get net batch.http url site = (.error e, asked)) :
    batch.fetchOne net key site = (.error (.network e), asked) := by
  simp only [fetchOne, found, got]

theorem fetchOne_of_response {url : Url} {response : Http.Response} {asked : Site σ}
    (found : batch.source.resource key = .ok url)
    (got : Http.get net batch.http url site = (.ok response, asked)) :
    batch.fetchOne net key site = batch.keep key response asked := by
  simp only [fetchOne, found, got]

section

variable {R : Site σ → Site σ → Prop} {a b : Site σ}

theorem keep_inStep (writes : ∀ {a b} value, R a b →
      InStep R (Artifact.write (batch.artifactPath key) value a)
        (Artifact.write (batch.artifactPath key) value b))
    (response : Http.Response) (related : R a b) :
    InStep R (batch.keep key response a) (batch.keep key response b) := by
  unfold keep
  split
  next => exact ⟨rfl, related⟩
  next =>
    split
    next => exact ⟨rfl, related⟩
    next value _ =>
      obtain ⟨answer, a, b, wroteA, wroteB, related⟩ := (writes value related).split
      rw [wroteA, wroteB]
      cases answer with
      | error e => exact ⟨rfl, related⟩
      | ok => exact ⟨rfl, related⟩

theorem fetchOne_inStep
    (gets : ∀ url, batch.source.resource key = .ok url →
      InStep R (Http.get net batch.http url a) (Http.get net batch.http url b))
    (writes : ∀ {a b} value, R a b → InStep R (Artifact.write (batch.artifactPath key) value a)
      (Artifact.write (batch.artifactPath key) value b))
    (related : R a b) : InStep R (batch.fetchOne net key a) (batch.fetchOne net key b) := by
  cases found : batch.source.resource key with
  | error fault =>
    simp only [fetchOne, found]
    exact ⟨rfl, related⟩
  | ok url =>
    obtain ⟨answer, a, b, gotA, gotB, related⟩ := (gets url found).split
    cases answer with
    | error e =>
      rw [fetchOne_of_error found gotA, fetchOne_of_error found gotB]
      exact ⟨rfl, related⟩
    | ok response =>
      rw [fetchOne_of_response found gotA, fetchOne_of_response found gotB]
      exact keep_inStep writes response related

theorem fetchOne_same (net : Network σ) (batch : Batch) (key : Key) (alike : Alike a b) :
    Same (batch.fetchOne net key a) (batch.fetchOne net key b) :=
  (fetchOne_inStep (fun url _ => (Http.get_same net alike batch.http url).inStep)
    (fun value alike => (Artifact.write_same alike _ value).inStep) alike).same

end

/-- How a fetch goes: it fails before it writes, or it gets to writing what it has read. -/
theorem fetchOne_cases (net : Network σ) (batch : Batch) (key : Key) (site : Site σ) :
    ∃ asked, Worked key.fileName site asked ∧
      ((∃ e, batch.fetchOne net key site = (.error e, asked) ∧
          ∀ body value, batch.body? net key site = some body → parse body ≠ .ok value) ∨
        ∃ body value, batch.body? net key site = some body ∧ parse body = .ok value ∧
          batch.fetchOne net key site =
            match Artifact.write (batch.artifactPath key) value asked with
            | (.error e, site) => (.error e, site)
            | (.ok (), site) => (.ok (batch.artifactPath key), site)) := by
  cases found : batch.source.resource key with
  | error fault =>
    refine ⟨site, .refl _ site, .inl ⟨.url fault, by simp only [fetchOne, found], ?_⟩⟩
    intro body value answered
    simp [body?, found] at answered
  | ok url =>
    have worked := Http.get_worked key.fileName net batch.http url site
    rcases got : Http.get net batch.http url site with ⟨e | response, asked⟩
    · rw [got] at worked
      refine ⟨asked, worked, .inl ⟨.network e, fetchOne_of_error found got, ?_⟩⟩
      simp only [body?, found, got]
      exact nofun
    · rw [got] at worked
      rw [fetchOne_of_response found got]
      simp only [body?, found, got]
      refine ⟨asked, worked, ?_⟩
      -- Only a response that is a success and is read as a value gets as far as its file.
      cases success : response.isSuccess with
      | false =>
        exact .inl ⟨.status response.status, by simp only [keep, success]; rfl, nofun⟩
      | true =>
        cases accepted : parse response.body with
        | error e =>
          refine .inl ⟨.json e, by simp only [keep, success, accepted]; rfl, ?_⟩
          rintro _ value ⟨⟩
          simp [accepted]
        | ok value =>
          refine .inr ⟨response.body, value, rfl, accepted, ?_⟩
          simp only [keep, success, accepted]
          generalize Artifact.write (batch.artifactPath key) value asked = wrote
          obtain ⟨_ | _, after⟩ := wrote <;> rfl

theorem artifactPath_eq (batch : Batch) (key : Key) :
    batch.artifactPath key = batch.outDir.join key.fileName := rfl

theorem fetchOne_worked (net : Network σ) (batch : Batch) (key : Key) (site : Site σ) :
    Worked key.fileName site (batch.fetchOne net key site).2 := by
  obtain ⟨asked, worked, ⟨e, failed, -⟩ | ⟨body, value, -, -, wrote⟩⟩ :=
    fetchOne_cases net batch key site
  · rwa [failed]
  · obtain ⟨written, -, -⟩ :=
      Artifact.write_worked key.isName_fileName (artifactPath_eq batch key) value asked
    rw [wrote]
    generalize Artifact.write (batch.artifactPath key) value asked = result at written ⊢
    obtain ⟨_ | _, after⟩ := result
    · exact worked.trans written
    · exact worked.trans written

/-- A body that is a document is written to the file of its key. Only the file system can keep
it from that. -/
theorem fetchOne_of_accepted {body : Bytes} {value : Value}
    (answered : batch.body? net key site = some body) (accepted : parse body = .ok value) :
    let ended := batch.fetchOne net key site
    (∃ e, ended.1 = .error (.io (batch.artifactPath key) e)) ∨
      ended.1 = .ok (batch.artifactPath key) ∧ ∃ dir,
        ended.2.files.locate site.cwd (batch.artifactPath key) =
          .ok ⟨dir ++ [key.fileName], false⟩ ∧
        ended.2.files.Holds (dir ++ [key.fileName]) (Utf8.encode value.pretty) := by
  intro ended
  have unfolded : ended = batch.fetchOne net key site := rfl
  obtain ⟨asked, worked, ⟨e, -, other⟩ | ⟨body', value', answered', accepted', wrote⟩⟩ :=
    fetchOne_cases net batch key site
  · exact absurd accepted (other body value answered)
  · obtain rfl : body = body' := by simpa [answered] using answered'
    obtain rfl : value = value' := by simpa [accepted] using accepted'
    obtain ⟨-, fails, written⟩ :=
      Artifact.write_worked key.isName_fileName (artifactPath_eq batch key) value asked
    -- Asking the server leaves the current directory as it is.
    rw [worked.cwd] at written
    rw [wrote] at unfolded
    rw [unfolded]
    generalize Artifact.write (batch.artifactPath key) value asked = result at fails written ⊢
    obtain ⟨e | _, after⟩ := result
    · obtain ⟨io, rfl⟩ := fails e rfl
      exact .inl ⟨io, rfl⟩
    · exact .inr ⟨rfl, written rfl⟩

theorem accepted_of_fetchOne {path : Path} (fetched : (batch.fetchOne net key site).1 = .ok path) :
    ∃ body value, batch.body? net key site = some body ∧ parse body = .ok value := by
  obtain ⟨asked, -, ⟨e, failed, -⟩ | ⟨body, value, answered, accepted, -⟩⟩ :=
    fetchOne_cases net batch key site
  · rw [failed] at fetched
    cases fetched
  · exact ⟨body, value, answered, accepted⟩

theorem keeps_of_fetchOne {path : Path} (fetched : (batch.fetchOne net key site).1 = .ok path) :
    path = batch.artifactPath key ∧ ∃ body value dir, batch.body? net key site = some body ∧
      parse body = .ok value ∧
      (batch.fetchOne net key site).2.files.locate site.cwd (batch.artifactPath key) =
        .ok ⟨dir ++ [key.fileName], false⟩ ∧
      (batch.fetchOne net key site).2.files.Holds (dir ++ [key.fileName])
        (Utf8.encode value.pretty) := by
  obtain ⟨body, value, answered, accepted⟩ := accepted_of_fetchOne fetched
  obtain ⟨io, failed⟩ | ⟨succeeded, dir, located, holds⟩ := fetchOne_of_accepted answered accepted
  · rw [failed] at fetched
    cases fetched
  · rw [succeeded] at fetched
    exact ⟨(Except.ok.inj fetched).symm, body, value, dir, answered, accepted, located, holds⟩

/-- What writing the artifact keeps, a response keeps: nothing else is done with it. -/
theorem keep_of_write {P : Site σ → Prop} {asked : Site σ} (holds : P asked)
    (writes : ∀ value, P (Artifact.write (batch.artifactPath key) value asked).2)
    (response : Http.Response) : P (batch.keep key response asked).2 := by
  unfold keep
  split
  next => exact holds
  next =>
    split
    next => exact holds
    next value _ =>
      have wrote := writes value
      generalize Artifact.write (batch.artifactPath key) value asked = result at wrote ⊢
      obtain ⟨_ | _, after⟩ := result
      · exact wrote
      · exact wrote

/-- What a transfer keeps, and writing the artifact, a fetch keeps. -/
theorem fetchOne_of_write {P : Site σ → Prop} (holds : P site)
    (transfers : ∀ url, P (Http.get net batch.http url site).2)
    (writes : ∀ value asked, P asked → P (Artifact.write (batch.artifactPath key) value asked).2) :
    P (batch.fetchOne net key site).2 := by
  cases found : batch.source.resource key with
  | error fault =>
    simp only [fetchOne, found]
    exact holds
  | ok url =>
    have asked := transfers url
    rcases got : Http.get net batch.http url site with ⟨e | response, after⟩
    · rw [got] at asked
      rwa [fetchOne_of_error found got]
    · rw [got] at asked
      rw [fetchOne_of_response found got]
      exact keep_of_write asked (fun value => writes value after asked) response

theorem keep_requests (batch : Batch) (key : Key) (response : Http.Response) (asked : Site σ) :
    (batch.keep key response asked).2.requests = asked.requests :=
  keep_of_write (P := fun after => after.requests = asked.requests) rfl
    (fun value => Artifact.write_requests (batch.artifactPath key) value asked) response

theorem requests_fetchOne {url : Url} (net : Network σ) (site : Site σ)
    (found : batch.source.resource key = .ok url) :
    (batch.fetchOne net key site).2.requests = (Http.get net batch.http url site).2.requests := by
  rcases got : Http.get net batch.http url site with ⟨e | response, asked⟩
  · rw [fetchOne_of_error found got]
  · rw [fetchOne_of_response found got, keep_requests]

/-- The first request of a fetch, if there is one, is for the URL of its key. -/
theorem fetchOne_requests (net : Network σ) (batch : Batch) (key : Key) (site : Site σ) :
    let ended := batch.fetchOne net key site
    ended.2.requests = site.requests ∨ ∃ url address, batch.source.resource key = .ok url ∧
      Http.Address.ofText url.text = .ok address ∧
      site.requests ++ [⟨address⟩] <+: ended.2.requests := by
  cases found : batch.source.resource key with
  | error fault =>
    left
    simp only [fetchOne, found]
  | ok url =>
    dsimp only
    rw [requests_fetchOne net site found]
    exact (Http.get_requests net batch.http url site).imp_right fun ⟨address, spelled, sent⟩ =>
      ⟨url, address, rfl, spelled, sent⟩

/-! ## What a fetch keeps -/

/-- Content preservation. A body that is a document has the tokens of one tree. If no object
of it begins with the marker of numbers, the file that is written has the tokens of that tree
without repeated names, up to the spelling of strings and numbers. -/
theorem fetchOne_content {body : Bytes} {value : Value}
    (answered : batch.body? net key site = some body) (accepted : parse body = .ok value) :
    ∃ tree : Tree, spelledTokens? body = some tree.lexemes ∧
      (∀ other : Tree, spelledTokens? body = some other.lexemes → other = tree) ∧
      (Unmarked tree →
        let ended := batch.fetchOne net key site
        let path := batch.artifactPath key
        (∃ e, ended.1 = .error (.io path e)) ∨
          ended.1 = .ok path ∧ ∃ artifact,
            tokens? artifact = some (tokens tree.collapse.lexemes) ∧
            site.files.Keeps ended.2.files site.cwd path artifact) := by
  obtain ⟨tree, cut, unique, laidOut⟩ := tokens?_pretty accepted
  refine ⟨tree, cut, unique, fun unmarked => ?_⟩
  -- `Keeps` asks where the path led before: no directory was made or removed.
  have touches := (fetchOne_worked net batch key site).files
  obtain failed | ⟨succeeded, dir, located, holds⟩ := fetchOne_of_accepted answered accepted
  · exact .inl failed
  · refine .inr ⟨succeeded, _, laidOut unmarked, ?_⟩
    exact .of_holds (touches.locate_iff.1 located) located (touches.devices _) holds

/-- A repeated name, a surrogate pair and an exponent without sign. -/
theorem fetchOne_content_of_repeated :
    let body := Utf8.encode "\x7b\"a\":[ ],\"b\":\"\\ud83d\\ude00\", \"a\":1E2\x7d"
    let value : Value := .object [("a", .number "1e+2"), ("b", .string "😀")]
    let net : Network Unit :=
      ⟨fun _ => none, fun _ _ => (.message 200 [] body, ()), fun _ _ _ => none⟩
    let batch : Batch := ⟨.fixed, ⟨"/out"⟩, .default⟩
    let site : Site Unit := .start ⟨[(["out"], .directory)], []⟩ [] () .unlimited
    let ended := batch.fetchOne net (.ofNat 10) site
    let path := batch.artifactPath (.ofNat 10)
    batch.body? net (.ofNat 10) site = some body ∧ parse body = .ok value ∧
      ∃ n : Numeral, n.text = "1E2".toList ∧
        let tree : Tree := .object [("a", .array []), ("b", .string "😀"), ("a", .number n)]
        spelledTokens? body = some tree.lexemes ∧ Unmarked tree ∧
          ((∃ e, ended.1 = .error (.io path e)) ∨
            ended.1 = .ok path ∧ ∃ artifact,
              tokens? artifact = some (tokens tree.collapse.lexemes) ∧
              site.files.Keeps ended.2.files site.cwd path artifact) := by
  intro body value net batch site ended path
  have answered : batch.body? net (.ofNat 10) site = some body := by decide +kernel
  have accepted : parse body = .ok value := by decide +kernel
  refine ⟨answered, accepted, ?_⟩
  -- `1E2` as the reader takes it apart.
  let n : Numeral := {
    negative := false
    whole := ['1']
    fraction := []
    exponent := some ⟨'E', none, ['2'], .inr rfl, nofun, ⟨nofun, by simp⟩⟩
    isDigits := ⟨nofun, by simp⟩
    zero_alone := by simp
    fraction_isDigit := nofun }
  let tree : Tree := .object [("a", .array []), ("b", .string "😀"), ("a", .number n)]
  have spelled : spelledTokens? body = some tree.lexemes := by decide +kernel
  have unmarked : Unmarked tree := by
    refine .object (by decide) ?_
    simp only [List.forall_mem_cons]
    exact ⟨.array nofun, .string _, .number _, nofun⟩
  obtain ⟨same, -, unique, kept⟩ := fetchOne_content answered accepted
  obtain rfl : tree = same := unique tree spelled
  exact ⟨n, rfl, spelled, unmarked, kept unmarked⟩

/-- The sign of a zero is a part of its literal, also without a fraction or an exponent. -/
example : (parse (Utf8.encode "-0")).map Value.pretty = .ok "-0" := by decide +kernel

end VectorFetch.Batch

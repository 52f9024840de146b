import VectorFetch.Proofs.Batch.Fetch
import VectorFetch.Proofs.Json.Truncation
import VectorFetch.Proofs.Writable

/-!
# Which bodies become artifacts

* `fetchOne_of_body`: what is done with a body that a server sent with success.
* `fetchOne_of_rejected`, `fetchOne_of_writable`: a body that is no document leaves all files as
  they are, and a document is written wherever a file can be.
* `fetchOne_truncated`: the front of a document is never written.
* `WellFormed`, `fetchOne_wellFormed`: the bodies that are written.
-/

namespace VectorFetch.Batch

open Site Json

variable {σ : Type} {net : Network σ} {batch : Batch} {key : Key} {site : Site σ}

/-! ## What is done with a body -/

/-- A body is kept as its response says, and no file has been touched before. -/
theorem fetchOne_of_body {body : Bytes} (answered : batch.body? net key site = some body) :
    ∃ response asked, response.isSuccess ∧ response.body = body ∧ asked.files = site.files ∧
      asked.cwd = site.cwd ∧ batch.fetchOne net key site = batch.keep key response asked := by
  obtain ⟨url, response, found, success, got, rfl⟩ := body?_eq_some_iff.1 answered
  have cwd := (Http.get_worked key.fileName net batch.http url site).cwd
  exact ⟨response, (Http.get net batch.http url site).2, success, rfl,
    Http.get_files net batch.http url site, cwd, fetchOne_of_response found (Prod.ext got rfl)⟩

theorem fetchOne_of_rejected {body : Bytes} {e : Json.Error}
    (answered : batch.body? net key site = some body) (rejected : parse body = .error e) :
    (batch.fetchOne net key site).1 = .error (.json e) ∧
      (batch.fetchOne net key site).2.files = site.files := by
  obtain ⟨response, asked, success, rfl, files, -, fetched⟩ := fetchOne_of_body answered
  have kept : batch.keep key response asked = (.error (.json e), asked) := by
    simp [keep, success, rejected]
  rw [fetched, kept]
  exact ⟨rfl, files⟩

theorem fetchOne_of_writable {body : Bytes} {value : Value}
    (writable : site.files.Writable site.cwd (batch.artifactPath key))
    (answered : batch.body? net key site = some body) (accepted : parse body = .ok value) :
    (batch.fetchOne net key site).1 = .ok (batch.artifactPath key) := by
  obtain ⟨response, asked, success, rfl, files, cwd, fetched⟩ := fetchOne_of_body answered
  rw [← files, ← cwd] at writable
  have written := Artifact.write_of_writable writable value
  rw [fetched]
  simp only [keep, success, accepted, Bool.not_true, Bool.false_eq_true, if_false]
  generalize Artifact.write (batch.artifactPath key) value asked = result at written ⊢
  obtain ⟨e | _, after⟩ := result
  · cases written
  · rfl

/-! ## Bodies that were cut short -/

/-- A truncated download never becomes an artifact. -/
theorem fetchOne_truncated {front whole : Bytes} {value : Value}
    (accepted : parse whole = .ok value) (notNumber : ¬BeginsWithNumber whole)
    (cut : Truncated front whole) :
    ∃ e : Json.Error, parse front = .error e ∧ e.fault.category = .endOfInput ∧
      ∀ {σ : Type} (net : Network σ) (batch : Batch) (key : Key) (site : Site σ),
        batch.body? net key site = some front →
        (batch.fetchOne net key site).1 = .error (.json e) ∧
          (batch.fetchOne net key site).2.files = site.files := by
  obtain ⟨e, rejected, early⟩ := parse_truncated accepted notNumber cut
  exact ⟨e, rejected, early, fun net batch key site answered =>
    fetchOne_of_rejected answered rejected⟩

/-- The cut is inside the second half of a surrogate pair. -/
theorem fetchOne_truncated_of_half_pair :
    let whole := Utf8.encode "[\"\\ud83d\\ude00\"]"
    let front := Utf8.encode "[\"\\ud83d\\ud"
    let net : Network Unit :=
      ⟨fun _ => none, fun _ _ => (.message 200 [] front, ()), fun _ _ _ => none⟩
    let batch : Batch := ⟨.fixed, ⟨"/out"⟩, .default⟩
    let site : Site Unit := .start ⟨[(["out"], .directory)], []⟩ [] () .unlimited
    parse whole = .ok (.array [.string "😀"]) ∧ ¬BeginsWithNumber whole ∧ Truncated front whole ∧
      batch.body? net (.ofNat 0) site = some front ∧
      ∃ e : Json.Error, parse front = .error e ∧ e.fault.category = .endOfInput ∧
        (batch.fetchOne net (.ofNat 0) site).1 = .error (.json e) ∧
        (batch.fetchOne net (.ofNat 0) site).2.files = site.files := by
  intro whole front net batch site
  have accepted : parse whole = .ok (.array [.string "😀"]) := by decide +kernel
  have notNumber : ¬BeginsWithNumber whole := by
    rintro ⟨b, first, number⟩
    have bracket : whole.find? (fun b => !isWhite b) = some 0x5B := by decide +kernel
    obtain rfl : 0x5B = b := Option.some.inj (bracket.symm.trans first)
    revert number
    decide
  -- The cut is inside the second half of the surrogate pair.
  have cut : Truncated front whole :=
    ⟨Utf8.encode "e00\"]", by decide +kernel, 0x5D, by decide +kernel, by decide⟩
  have answered : batch.body? net (.ofNat 0) site = some front := by decide +kernel
  obtain ⟨e, rejected, early, ended⟩ := fetchOne_truncated accepted notNumber cut
  exact ⟨accepted, notNumber, cut, answered, e, rejected, early,
    ended net batch (.ofNat 0) site answered⟩

/-! ## Well-formed bodies -/

/-- The bytes are a text of the grammar in UTF-8, in which arrays and objects nest at most 127
deep. Strings of the grammar hold no raw control character, and their surrogates are paired. -/
def WellFormed (body : Bytes) : Prop :=
  ∃ text tree, body = Utf8.encodeChars text ∧ SpellsDocument tree text ∧ tree.depth ≤ 127

theorem wellFormed_iff {body : Bytes} : WellFormed body ↔ ∃ tree, IsDocument tree body := by
  constructor
  · rintro ⟨text, tree, rfl, spelled, fits⟩
    exact ⟨tree, .intro spelled fits⟩
  · rintro ⟨tree, spelled, fits⟩
    exact ⟨_, tree, rfl, spelled, fits⟩

/-- Where a file can be written, a body without marked objects becomes an artifact if and only
if it is well formed. Otherwise it is refused. -/
theorem fetchOne_wellFormed {body : Bytes} (answered : batch.body? net key site = some body)
    (writable : site.files.Writable site.cwd (batch.artifactPath key))
    (unmarked : ∀ tree, IsDocument tree body → Unmarked tree) :
    let ended := batch.fetchOne net key site
    let path := batch.artifactPath key
    ((ended.1 = .ok path ∧ ∃ artifact, site.files.Keeps ended.2.files site.cwd path artifact) ↔
      WellFormed body) ∧
    (¬WellFormed body → ∃ e, ended.1 = .error (.json e) ∧ ended.2.files = site.files) := by
  intro ended path
  refine ⟨⟨fun written => ?_, fun derived => ?_⟩, fun underived => ?_⟩
  · obtain ⟨-, body', value, -, answered', accepted, -⟩ := keeps_of_fetchOne written.1
    obtain rfl : body = body' := by simpa [answered] using answered'
    obtain ⟨tree, derived, -⟩ := exists_tree_of_parse accepted
    exact wellFormed_iff.2 ⟨tree, derived⟩
  · obtain ⟨tree, derived⟩ := wellFormed_iff.1 derived
    -- Without a marked object every text of the grammar has a value.
    obtain ⟨value, means⟩ := exists_value?_of_unmarked (unmarked tree derived)
    have accepted := parse_of_isDocument derived means
    have written := fetchOne_of_writable writable answered accepted
    obtain ⟨-, _, _, dir, -, -, located, holds⟩ := keeps_of_fetchOne written
    have touches := (fetchOne_worked net batch key site).files
    exact ⟨written, _, .of_holds (touches.locate_iff.1 located) located (touches.devices _) holds⟩
  · -- Whatever is read has a tree, so a body without one was refused.
    cases rejected : parse body with
    | error e => exact ⟨e, fetchOne_of_rejected answered rejected⟩
    | ok value =>
      obtain ⟨tree, derived, -⟩ := exists_tree_of_parse rejected
      exact absurd (wellFormed_iff.2 ⟨tree, derived⟩) underived

/-- A pair of surrogates, and a name that is not the first one of its object. -/
theorem fetchOne_wellFormed_of_pair :
    let body := Utf8.encode " [\x7b\"\":[],\"$serde_json::private::Number\":\"\\uD83d\\uDe00\"\x7d]\n"
    let net : Network Unit :=
      ⟨fun _ => none, fun _ _ => (.message 200 [] body, ()), fun _ _ _ => none⟩
    let batch : Batch := ⟨.fixed, ⟨"/out"⟩, .default⟩
    let site : Site Unit := .start ⟨[(["out"], .directory)], []⟩ [] () .unlimited
    let ended := batch.fetchOne net (.ofNat 0) site
    let path := batch.artifactPath (.ofNat 0)
    batch.body? net (.ofNat 0) site = some body ∧
      site.files.Writable site.cwd path ∧ (∀ tree, IsDocument tree body → Unmarked tree) ∧
      ((ended.1 = .ok path ∧ ∃ artifact, site.files.Keeps ended.2.files site.cwd path artifact) ↔
        WellFormed body) ∧
      (¬WellFormed body → ∃ e, ended.1 = .error (.json e) ∧ ended.2.files = site.files) := by
  intro body net batch site ended path
  have answered : batch.body? net (.ofNat 0) site = some body := by decide +kernel
  have located : site.files.locate site.cwd path = .ok ⟨["out", "00.json"], false⟩ := by
    decide +kernel
  have writable : site.files.Writable site.cwd path := .new located (by decide +kernel) rfl
  let tree : Tree := .array [.object [("", .array []), (numberName, .string "😀")]]
  have spelled : spelledTokens? body = some tree.lexemes := by decide +kernel
  -- The grammar derives no other tree, so that it is enough to look at this one.
  have unmarked : ∀ other, IsDocument other body → Unmarked other := by
    intro other derived
    obtain rfl : tree = other :=
      lexemes_injective (Option.some.inj (spelled.symm.trans (spelledTokens?_of_isDocument derived)))
    refine .array fun item member => ?_
    obtain rfl := List.mem_singleton.1 member
    refine .object (by decide) ?_
    simp only [List.forall_mem_cons]
    exact ⟨.array nofun, .string _, nofun⟩
  exact ⟨answered, writable, unmarked, fetchOne_wellFormed answered writable unmarked⟩

end VectorFetch.Batch

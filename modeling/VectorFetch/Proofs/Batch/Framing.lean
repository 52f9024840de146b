import VectorFetch.Proofs.Batch.Offer
import VectorFetch.Proofs.Http.Framing

/-!
# Fetches of bodies, however they are sent

* `fetchOne_congr`: behind the same response a fetch does the same.
* `fetchOne_framing`: a body gives the same response and the same file however it is sent, and one
  that breaks off gives neither.
-/

namespace VectorFetch.Batch

variable {σ τ : Type} {net : Network σ} {net' : Network τ} {batch : Batch} {key : Key}
  {site : Site σ} {site' : Site τ} {url : Url}

theorem fetchOne_congr (found : batch.source.resource key = .ok url)
    (same : (Http.get net' batch.http url site').1 = (Http.get net batch.http url site).1)
    (files : site'.files = site.files) (cwd : site'.cwd = site.cwd) :
    (batch.fetchOne net' key site').1 = (batch.fetchOne net key site).1 ∧
      (batch.fetchOne net' key site').2.files = (batch.fetchOne net key site).2.files := by
  have offered : batch.offer net' key site' = batch.offer net key site := by
    simp only [offer, found, same]
  obtain ⟨answer, left⟩ := fetchOne_of_offer net batch key site
  obtain ⟨answer', left'⟩ := fetchOne_of_offer net' batch key site'
  rw [answer, left, answer', left', offered, files, cwd]
  exact ⟨rfl, rfl⟩

/-- Framing is invisible. Whatever the status is, as long as a body stands behind it and no redirect
is followed from it: however the body is sent, a transfer gives it as it is, and a fetch has the
same answer and leaves the same files. A body that breaks off, wherever it does, makes both fail,
and no file is touched. A body may be sent in any chunks that are not empty. -/
theorem fetchOne_framing {options : Http.Options} {status : Nat} {headers : List (String × String)}
    {sent : Bytes} (hasBody : Http.HasBody options status)
    (reaches : Http.Reaches net options url site.server (.message status headers sent)) :
    (∀ body, Http.Frames body headers sent →
      (Http.get net options url site).1 = .ok ⟨status, body⟩ ∧
      ∀ (batch : Batch) (key : Key), batch.http = options → batch.source.resource key = .ok url →
        ∀ {τ : Type} (net' : Network τ) (site' : Site τ) (headers' : List (String × String))
          (sent' : Bytes), site'.files = site.files → site'.cwd = site.cwd →
          Http.Reaches net' options url site'.server (.message status headers' sent') →
          Http.Frames body headers' sent' →
          (batch.fetchOne net' key site').1 = (batch.fetchOne net key site).1 ∧
            (batch.fetchOne net' key site').2.files = (batch.fetchOne net key site).2.files) ∧
    (Http.Breaks headers sent → ∃ e, e.code = 18 ∧
      (Http.get net options url site).1 = .error e ∧
      ∀ (batch : Batch) (key : Key), batch.http = options → batch.source.resource key = .ok url →
        (batch.fetchOne net key site).1 = .error (.network e) ∧
          (batch.fetchOne net key site).2.files = site.files) ∧
    ∀ chunks : List Bytes, (∀ chunk ∈ chunks, chunk ≠ [] ∧ chunk.length < 2 ^ 63) →
      ∃ sent, ∀ headers, Http.AreChunked headers → Http.Frames chunks.flatten headers sent := by
  refine ⟨fun body frames => ?_, fun breaks => ?_, fun chunks sized => ?_⟩
  · have got := Http.get_of_frames hasBody reaches frames
    refine ⟨got, ?_⟩
    rintro batch key rfl found τ net' site' headers' sent' files cwd reaches' frames'
    -- Both transfers answer with the same body, and nothing else of them reaches the file.
    have got' := Http.get_of_frames hasBody reaches' frames'
    exact fetchOne_congr found (got'.trans got.symm) files cwd
  · obtain ⟨detail, got⟩ := Http.get_of_breaks hasBody reaches breaks
    refine ⟨⟨.partialBody, detail⟩, rfl, got, ?_⟩
    rintro batch key rfl found
    have failed := fetchOne_of_error found (Prod.ext got rfl)
    rw [failed]
    exact ⟨rfl, Http.get_files net batch.http url site⟩
  · obtain ⟨sent, carries⟩ := Http.Chunk.exists_carries sized
    exact ⟨sent, fun headers coded => .chunked coded carries rfl⟩

/-- Two chunks with an extension and a trailer, the same body with its length, and without its last
byte. -/
theorem fetchOne_framing_of_two_chunks :
    let reply (headers : List (String × String)) (text : String) : Network Unit :=
      ⟨fun _ => none, fun _ _ => (.message 200 headers (Utf8.encode text), ()), fun _ _ _ => none⟩
    let coded := [("transfer-Encoding", "Chunked"), ("content-length", "7")]
    let chunked := reply coded "2\r\n[1\r\n0001;x\r\n]\r\n0\r\nA: b\r\n\r\n"
    let plain := reply [("Content-Length", "3")] "[1]"
    let short := reply [("Content-Length", "3")] "[1"
    let batch : Batch := ⟨.fixed, ⟨"/out"⟩, .default⟩
    let site : Site Unit := .start ⟨[(["out"], .directory)], []⟩ [] () .unlimited
    ∃ url, batch.source.resource (.ofNat 1) = .ok url ∧
      (Http.get chunked .default url site).1 = .ok ⟨200, Utf8.encode "[1]"⟩ ∧
      (batch.fetchOne plain (.ofNat 1) site).1 = (batch.fetchOne chunked (.ofNat 1) site).1 ∧
      (batch.fetchOne plain (.ofNat 1) site).2.files =
        (batch.fetchOne chunked (.ofNat 1) site).2.files ∧
      ∃ e, e.code = 18 ∧ (batch.fetchOne short (.ofNat 1) site).1 = .error (.network e) ∧
        (batch.fetchOne short (.ofNat 1) site).2.files = site.files := by
  intro reply coded chunked plain short batch site
  let url : Url := { Source.fixed.base with
    path := .segments ["TomHarte", "ProcessorTests", "main", "nes6502", "v1", "01.json"] }
  have found : batch.source.resource (.ofNat 1) = .ok url := by decide +kernel
  have spelled : ∃ start, Http.Address.ofText url.text = .ok start ∧ start.IsWeb := by
    refine ⟨⟨"https", none, "raw.githubusercontent.com", none,
      "/TomHarte/ProcessorTests/main/nes6502/v1/01.json", none, none⟩, by decide +kernel, .inr rfl⟩
  have reaches : ∀ headers text, Http.Reaches (reply headers text) .default url site.server
      (.message 200 headers (Utf8.encode text)) := by
    obtain ⟨start, spelled, web⟩ := spelled
    exact fun headers text =>
      ⟨rfl, start, [], start, (), spelled, web, fun _ _ => rfl, .here, Nat.zero_le _, rfl⟩
  have hasBody : Http.HasBody .default 200 := ⟨by decide, by decide, fun _ => by decide⟩
  -- The chunks byte by byte: their sizes, the extension behind the second one, and the trailer.
  have carries : Http.Chunk.Carries [[91, 49], [93]]
      (Utf8.encode "2\r\n[1\r\n0001;x\r\n]\r\n0\r\nA: b\r\n\r\n") := by
    have trailer : ∀ field ∈ [[65, 58, 32, 98]], Http.Chunk.IsField field := by
      rintro _ (_ | ⟨_, ⟨⟩⟩)
      exact ⟨nofun, by decide, by decide⟩
    have none : Http.Chunk.IsSizeLine 0 [48, 13, 10] :=
      ⟨by decide, [48], [], rfl, nofun, by decide, by decide, nofun, nofun⟩
    have one : Http.Chunk.IsSizeLine 1 [48, 48, 48, 49, 59, 120, 13, 10] := by
      refine ⟨by decide, [48, 48, 48, 49], [59, 120], rfl, nofun, by decide, by decide, ?_, by decide⟩
      rintro _ ⟨⟩
      decide
    have two : Http.Chunk.IsSizeLine 2 [50, 13, 10] :=
      ⟨by decide, [50], [], rfl, nofun, by decide, by decide, nofun, nofun⟩
    have spelled : Utf8.encode "2\r\n[1\r\n0001;x\r\n]\r\n0\r\nA: b\r\n\r\n" =
        [50, 13, 10] ++ [91, 49] ++ Http.Chunk.lineEnd ++ ([48, 48, 48, 49, 59, 120, 13, 10] ++ [93] ++
          Http.Chunk.lineEnd ++ ([48, 13, 10] ++ [[65, 58, 32, 98]].flatMap (· ++ Http.Chunk.lineEnd)
            ++ Http.Chunk.lineEnd)) := by decide +kernel
    rw [spelled]
    exact .chunk two nofun (.chunk one nofun (.last none trailer))
  -- The length beside the coding is not heeded.
  have inChunks : Http.AreChunked coded := by
    have header : Http.IsChunkedHeader ("transfer-Encoding", "Chunked") :=
      ⟨by decide +kernel, by decide +kernel⟩
    have length : Http.IsLengthHeader 7 ("content-length", "7") :=
      ⟨by decide +kernel, by decide +kernel⟩
    refine ⟨⟨_, .head _, header⟩, List.forall_mem_cons.2 ⟨.inl header, List.forall_mem_cons.2 ?_⟩⟩
    exact ⟨.inr (.inr ⟨7, length⟩), nofun⟩
  have framed : Http.Frames (Utf8.encode "[1]") coded
      (Utf8.encode "2\r\n[1\r\n0001;x\r\n]\r\n0\r\nA: b\r\n\r\n") :=
    .chunked inChunks carries (by decide +kernel)
  have three : Http.IsLengthHeader 3 ("Content-Length", "3") :=
    ⟨by decide +kernel, by decide +kernel⟩
  have announced : Http.Frames (Utf8.encode "[1]") [("Content-Length", "3")] (Utf8.encode "[1]") :=
    @Http.Frames.length _ _ [] [] three nofun
  have breaks : Http.Breaks [("Content-Length", "3")] (Utf8.encode "[1") :=
    @Http.Breaks.length _ [] [] 3 _ three (by decide) nofun (by decide +kernel)
  have inTwo : Http.Reaches chunked .default url site.server (.message 200 coded
      (Utf8.encode "2\r\n[1\r\n0001;x\r\n]\r\n0\r\nA: b\r\n\r\n")) := reaches _ _
  have atOnce : Http.Reaches plain .default url site.server
      (.message 200 [("Content-Length", "3")] (Utf8.encode "[1]")) := reaches _ _
  have inPart : Http.Reaches short .default url site.server
      (.message 200 [("Content-Length", "3")] (Utf8.encode "[1")) := reaches _ _
  -- The theorem is applied to the chunks, and once more to the body that is cut off.
  obtain ⟨whole, -⟩ := fetchOne_framing hasBody inTwo
  obtain ⟨got, same⟩ := whole _ framed
  obtain ⟨answer, files⟩ :=
    same batch (.ofNat 1) rfl found plain site _ _ rfl rfl atOnce announced
  obtain ⟨-, cut, -⟩ := fetchOne_framing hasBody inPart
  obtain ⟨e, code, -, failed⟩ := cut breaks
  exact ⟨url, found, got, answer, files, e, code, failed batch (.ofNat 1) rfl found⟩

/-- A length that is too large to be one is not heeded: the body ends with the connection, and what
was received is written. -/
theorem fetchOne_accepts_huge_length :
    let header := ("Content-Length", "99999999999999999999")
    let sent := Utf8.encode "1"
    let net : Network Unit :=
      ⟨fun _ => none, fun _ _ => (.message 200 [header] sent, ()), fun _ _ _ => none⟩
    let batch : Batch := ⟨.fixed, ⟨"/out"⟩, .default⟩
    let site : Site Unit := .start ⟨[(["out"], .directory)], []⟩ [] () .unlimited
    let fetched := batch.fetchOne net (.ofNat 1) site
    (∃ announced, Http.IsLengthHeader announced header ∧ sent.length < announced) ∧
      (∃ url, batch.source.resource (.ofNat 1) = .ok url ∧
        (Http.get net .default url site).1 = .ok ⟨200, sent⟩) ∧
      fetched.1 = .ok ⟨"/out/01.json"⟩ ∧
      site.files.node? ["out", "01.json"] = none ∧
      fetched.2.files.node? ["out", "01.json"] = some (.file sent none) := by
  intro header sent net batch site fetched
  have announces : Http.IsLengthHeader 99999999999999999999 header :=
    ⟨by decide +kernel, by decide +kernel⟩
  let url : Url := { Source.fixed.base with
    path := .segments ["TomHarte", "ProcessorTests", "main", "nes6502", "v1", "01.json"] }
  have found : batch.source.resource (.ofNat 1) = .ok url := by decide +kernel
  have got : (Http.get net .default url site).1 = .ok ⟨200, sent⟩ := by decide +kernel
  have short : sent.length < 99999999999999999999 := by decide +kernel
  exact ⟨⟨_, announces, short⟩, ⟨url, found, got⟩, by decide +kernel⟩

end VectorFetch.Batch

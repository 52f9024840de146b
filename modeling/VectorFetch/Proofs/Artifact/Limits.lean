import VectorFetch.Proofs.Files.AtOnce

/-!
# Documents that do not fit

* `writeTo_limited`: a sink that takes only so many bytes gets the front of a document, however few
  it takes at a time.
* `writeThrough_eq`: a buffer before a sink makes no difference, also where the sink fails.
* `write_limited`: a file that takes only so many bytes holds the front of a document, and where it
  fails makes no difference to the error.
-/

namespace VectorFetch

namespace Artifact

open Json (Value)

/-! ## Sinks -/

/-- What a sink with room for so many bytes gets of a document. -/
structure Poured (text : String) (room : Nat) (refusal : Refusal)
    (ended : Except WriteError Unit × Sink) : Prop where
  taken : ended.2.taken = (Utf8.encode text).take (min room (Utf8.encode text).length)
  succeeds : ended.1 = .ok () ↔ (Utf8.encode text).length ≤ room
  /-- The error is that of the sink. -/
  fails : ∀ e, ended.1 = .error e → e.isIo ∧
    match refusal with
    | .failure own => e = .io own.error
    | .silence => e = .io .nothingTaken ∧ e.message = "failed to write whole buffer"

theorem poured_writeTo {sink : Sink} {room : Nat} (limited : sink.room = some room)
    (calls : sink.perCall ≠ some 0) (fresh : sink.taken = []) (value : Value) :
    Poured value.pretty room sink.refusal (writeTo sink value) := by
  have fits : (sink.takeAll (Utf8.encode value.pretty)).1 = .ok () ↔ _ :=
    Sink.takeAll_fst_eq_ok limited calls
  rw [writeTo_eq calls]
  rcases answer : sink.takeAll (Utf8.encode value.pretty) with ⟨e | _, after⟩
  · obtain ⟨short, rfl, taken⟩ := Sink.takeAll_eq_error limited calls answer
    refine ⟨?_, ⟨nofun, fun all => by omega⟩, ?_⟩
    · rw [taken, fresh, List.nil_append, Nat.min_eq_left (by omega)]
    · rintro _ ⟨⟩
      refine ⟨rfl, ?_⟩
      -- A sink that keeps silent is reported as one that took nothing.
      unfold Sink.shortage
      cases sink.refusal with
      | failure own => rfl
      | silence => exact ⟨rfl, rfl⟩
  · rw [answer] at fits
    have all := fits.1 rfl
    refine ⟨?_, ⟨fun _ => all, fun _ => rfl⟩, nofun⟩
    rw [Sink.accept_of_takeAll calls answer, Sink.accept, fresh, List.nil_append,
      Nat.min_eq_right all, List.take_length]

/-- A sink that takes so many bytes in all gets the front of the document, and neither that nor the
answer depends on how many of them it takes in one call. -/
theorem writeTo_limited (value : Value) (room : Nat) (refusal : Refusal) :
    ∃ text, document? value = some text ∧ ∀ calls, 0 < calls →
      Poured text room refusal (writeTo ⟨some room, some calls, refusal, []⟩ value) := by
  refine ⟨value.pretty, document?_eq value, fun calls positive => ?_⟩
  have takes : (⟨some room, some calls, refusal, []⟩ : Sink).perCall ≠ some 0 := by
    simp only [ne_eq, Option.some.injEq]
    omega
  exact poured_writeTo rfl takes rfl value

/-- Two bytes at a time, and no room is left inside a name. -/
theorem writeTo_limited_of_half_name :
    let value : Value := .object [("ab", .array [.null])]
    let ended := writeTo ⟨some 8, some 2, .silence, []⟩ value
    0 < 2 ∧ ended.2.taken = Utf8.encode "\x7b\n    \"a" ∧ ended.1 = .error (.io .nothingTaken) ∧
      ∃ text, document? value = some text ∧ Poured text 8 .silence ended := by
  intro value ended
  obtain ⟨text, made, pours⟩ := writeTo_limited value 8 .silence
  exact ⟨by decide, by decide +kernel, by decide +kernel, text, made, pours 2 (by decide)⟩

/-! ## Buffers -/

theorem writeThrough_eq (path : Path) (value : Value) {sink : Sink}
    (calls : sink.perCall ≠ some 0) :
    writeThrough path value sink =
      ((sink.takeAll (Utf8.encode value.pretty)).1.mapError (.io path),
        (sink.takeAll (Utf8.encode value.pretty)).2) := by
  have put := (BufferedSink.carries_fresh sink).putAll calls Buffer.standardCapacity (pieces value)
  rw [List.nil_append, flatten_pieces] at put
  unfold writeThrough
  rcases putAll : (BufferedSink.fresh sink).putAll Buffer.standardCapacity (pieces value)
    with ⟨e | _, b⟩
  · rw [putAll] at put
    cases put with
    | refused refuses =>
      dsimp only
      rw [BufferedSink.close_of_refused calls refuses, refuses]
      rfl
  · rw [putAll] at put
    cases put with
    | carried carries =>
      -- Everything is in the sink or in the buffer, and the flush empties the buffer.
      obtain ⟨flushed, emptied⟩ := carries.flush calls
      dsimp only
      rcases flush : b.flush with ⟨e | _, last⟩
      · rw [flush] at flushed
        cases flushed with
        | refused refuses =>
          dsimp only
          rw [BufferedSink.close_of_refused calls refuses, refuses]
          rfl
      · rw [flush] at flushed emptied
        cases flushed with
        | carried carries =>
          dsimp only
          have closed : last.close = last.sink := by
            unfold BufferedSink.close BufferedSink.flush
            rw [emptied rfl, Sink.takeAll]
          have all := carries.takeAll calls
          rw [emptied rfl, Sink.takeAll] at all
          rw [closed, all]
          rfl

/-! ## Files -/

variable {σ : Type}

/-- How a document ends up in an empty file that takes so many bytes and then fails. -/
structure Saved (path : Path) (value : Value) (place : Place) (opened : Files) (room : Nat)
    (e : LastingError) (ended : Except FetchError Unit × Files) : Prop where
  succeeds : ended.1 = .ok () ↔ (Utf8.encode value.pretty).length ≤ room
  fails : ended.1 ≠ .ok () → ended.1 = .error (.io path e.error)
  stored : ended.2 = opened.set place
    (.file ((Utf8.encode value.pretty).take room) (some (room, e)))
  /-- Piece by piece through a buffer it is the same, whether a full buffer or the last flush finds
  the file full. -/
  buffered : ∃ sink, writeThrough path value (Files.sinkOf [] (some (room, e))) = (ended.1, sink) ∧
    sink.taken = (Utf8.encode value.pretty).take room

theorem saved_store {place : Place} {opened : Files} {room : Nat} {e : LastingError}
    (there : opened.node? place = some (.file [] (some (room, e)))) (path : Path) (value : Value) :
    Saved path value place opened room e
      ((opened.store place (Utf8.encode value.pretty)).1.mapError (.io path),
        (opened.store place (Utf8.encode value.pretty)).2) := by
  have limited : (Files.sinkOf [] (some (room, e))).room = some room := rfl
  have calls : (Files.sinkOf [] (some (room, e))).perCall ≠ some 0 := by simp [Files.sinkOf]
  have fits : ((Files.sinkOf [] (some (room, e))).takeAll (Utf8.encode value.pretty)).1 = .ok () ↔
      _ := Sink.takeAll_fst_eq_ok limited calls
  have through := writeThrough_eq path value calls
  rw [Files.store_of_file there]
  rcases answer : (Files.sinkOf [] (some (room, e))).takeAll (Utf8.encode value.pretty)
    with ⟨cause | _, after⟩
  · -- The device is full before the end of the text.
    obtain ⟨short, rfl, taken⟩ := Sink.takeAll_eq_error limited calls answer
    rw [answer] at through
    have refuses : ∀ e, Except.error e ≠ (.ok () : Except FetchError Unit) := fun _ same => by
      cases same
    exact ⟨⟨fun same => absurd same (refuses _), fun all => by omega⟩, fun _ => rfl,
      by rw [taken]; rfl, after, through, taken⟩
  · rw [answer] at fits through
    have all := fits.1 rfl
    have taken : after.taken = (Utf8.encode value.pretty).take room := by
      rw [Sink.accept_of_takeAll calls answer, List.take_of_length_le all]
      rfl
    exact ⟨⟨fun _ => all, fun _ => rfl⟩, fun failed => absurd rfl failed, by rw [taken], after,
      through, taken⟩

/-- An artifact is written if its file can be made and has room for the document, and then the file
holds it. Otherwise the error is that of the path, with the cause of the failure, and a file that
was made holds the front of the document. -/
theorem write_limited (path : Path) (value : Value) (site : Site σ) :
    let ended := write path value site
    (∀ e, site.files.create site.cwd path = .error e → ended = (.error (.io path e), site)) ∧
      (∀ place opened, site.files.create site.cwd path = .ok (place, opened) →
        (∀ room e, opened.node? place = some (.file [] (some (room, e))) →
          Saved path value place opened room e (ended.1, ended.2.files)) ∧
        (opened.node? place = some (.file [] none) → ended.1 = .ok () ∧
          ended.2.files = opened.set place (.file (Utf8.encode value.pretty) none))) ∧
      ∀ fault, ended.1 ≠ .error (.json fault) := by
  intro ended
  obtain ⟨answer, files⟩ := write_eq_write path value site
  refine ⟨fun e failed => ?_, fun place opened created => ⟨fun room e there => ?_, fun there => ?_⟩,
    fun fault same => ?_⟩
  · simp only [ended, write, Site.create, failed]
  · have saved := saved_store there path value
    simp only [Files.write, created] at answer files
    rwa [← answer, ← files] at saved
  · have calls : (Files.sinkOf [] none).perCall ≠ some 0 := by simp [Files.sinkOf]
    simp only [Files.write, created] at answer files
    rw [Files.store_of_file there, Sink.takeAll_of_room rfl calls] at answer files
    exact ⟨answer, files⟩
  · -- No error of a file is one of a document.
    rw [answer] at same
    cases wrote : (site.files.write site.cwd path (Utf8.encode value.pretty)).1 with
    | error e =>
      rw [wrote] at same
      cases same
    | ok =>
      rw [wrote] at same
      cases same

/-- A new file on a device that is full, behind a buffer that has room for the whole document. -/
theorem write_limited_of_full_device :
    let full : LastingError := ⟨.os 28, rfl⟩
    let files : Files := ⟨[], [(["full"], 0, full)]⟩
    let opened : Files := files.set ["full"] (.file [] (some (0, full)))
    let path : Path := ⟨"full"⟩
    let ended := write path (.array []) (Site.start files [] () .unlimited)
    files.create [] path = .ok (["full"], opened) ∧ ended.1 = .error (.io path (.os 28)) ∧
      Saved path (.array []) ["full"] opened 0 full (ended.1, ended.2.files) := by
  intro full files opened path ended
  have created : files.create [] path = .ok (["full"], opened) := by decide +kernel
  obtain ⟨-, made, -⟩ := write_limited path (.array []) (Site.start files [] () .unlimited)
  have saved := (made ["full"] opened created).1 0 full (by decide +kernel)
  exact ⟨created, by decide +kernel, saved⟩

end Artifact

end VectorFetch

import Mathlib.Data.List.Infix
import VectorFetch.Log.Output
import VectorFetch.Proofs.Batch.Run
import VectorFetch.Proofs.History

/-!
# What the log tells of a run

A run leaves three records: its answer, the progress that was accepted, and its log.

* `Heard`: which progress goes with which answer, and how many keys were attempted.
* `story`: what the log has to say, by the responses, by the progress that was accepted, and by the
  answer. Nothing else about the run is used.
* `Told`, `run_told`: the three records of a run agree, wherever it stops.
-/

namespace VectorFetch

open Site

variable {σ : Type}

namespace Sink

/-- A sink that refuses has taken a part of the bytes, and not all of them. -/
theorem takeAll_accepts_part {s after : Sink} {e : IoError} {bytes : Bytes}
    (refused : s.takeAll bytes = (.error e, after)) :
    ∃ part, part <+: bytes ∧ part.length < bytes.length ∧ after = s.accept part := by
  by_cases calls : s.perCall = some 0
  · -- A sink that takes nothing with a call refuses all but the empty text.
    have notEmpty : bytes ≠ [] := by
      rintro rfl
      rw [takeAll] at refused
      cases refused
    obtain ⟨e', refuses⟩ := takeAll_of_stuck calls
    rw [refuses bytes notEmpty] at refused
    cases refused
    exact ⟨[], List.nil_prefix, List.length_pos_iff.2 notEmpty, (accept_nil s).symm⟩
  · rw [takeAll_eq calls] at refused
    have le := limit_le s.room bytes.length
    split at refused
    next => cases refused
    next less =>
      cases refused
      refine ⟨_, List.take_prefix _ _, ?_, rfl⟩
      rw [List.length_take]
      omega

end Sink

/-! ## What is logged on the way -/

namespace Site

theorem print_eq_ok {site after : Site σ} {bytes : Bytes}
    (printed : site.print bytes = (.ok (), after)) :
    after.progress = site.progress.accept bytes := by
  obtain ⟨part, -, taken, whole⟩ := site.progress.takeAll_accepts bytes
  obtain ⟨accepted, rfl⟩ := Prod.ext_iff.1 printed
  obtain rfl := whole accepted
  exact taken

theorem print_eq_error {site after : Site σ} {e : IoError} {bytes : Bytes}
    (printed : site.print bytes = (.error e, after)) :
    ∃ part, part <+: bytes ∧ part.length < bytes.length ∧
      after.progress = site.progress.accept part := by
  obtain ⟨refused, rfl⟩ := Prod.ext_iff.1 printed
  exact Sink.takeAll_accepts_part (Prod.ext refused rfl)

theorem printAll_eq_ok {site after : Site σ} {pieces : List Bytes}
    (printed : site.printAll pieces = (.ok (), after)) :
    after.progress = site.progress.accept pieces.flatten := by
  induction pieces generalizing site with
  | nil =>
    cases printed
    rw [List.flatten_nil, Sink.accept_nil]
  | cons piece pieces ih =>
    unfold printAll at printed
    split at printed
    next => cases printed
    next first => rw [ih printed, print_eq_ok first, Sink.accept_accept, List.flatten_cons]

theorem printAll_eq_error {site after : Site σ} {e : IoError} {pieces : List Bytes}
    (printed : site.printAll pieces = (.error e, after)) :
    ∃ part, part <+: pieces.flatten ∧ part.length < pieces.flatten.length ∧
      after.progress = site.progress.accept part := by
  induction pieces generalizing site with
  | nil => cases printed
  | cons piece pieces ih =>
    rw [List.flatten_cons, List.length_append]
    unfold printAll at printed
    split at printed
    next first =>
      -- The piece that is refused is cut off.
      cases printed
      obtain ⟨part, front, short, took⟩ := print_eq_error first
      exact ⟨part, front.trans (List.prefix_append _ _), by omega, took⟩
    next first =>
      obtain ⟨part, front, short, took⟩ := ih printed
      refine ⟨piece ++ part, (List.prefix_append_right_inj piece).2 front, ?_, ?_⟩
      · rw [List.length_append]
        omega
      · rw [took, print_eq_ok first, Sink.accept_accept]

theorem printAll_events (site : Site σ) (pieces : List Bytes) :
    (site.printAll pieces).2.events = site.events := by
  induction pieces generalizing site with
  | nil => rfl
  | cons piece pieces ih =>
    have kept : (site.print piece).2.events = site.events := rfl
    unfold printAll
    generalize site.print piece = result at kept ⊢
    obtain ⟨_ | _, after⟩ := result
    · exact kept
    · exact (ih after).trans kept

theorem printAll_quiet {site after : Site σ} {answer : Except IoError Unit} {pieces : List Bytes}
    (printed : site.printAll pieces = (answer, after)) :
    Alike after site ∧ after.events = site.events := by
  have alike := printAll_alike site pieces
  have kept := printAll_events site pieces
  rw [printed] at alike kept
  exact ⟨alike, kept⟩

end Site

namespace Http

variable (net : Network σ) (options : Options) (url : Url) (site : Site σ)

theorem transfer_events : (transfer net options url site).2.events = site.events := by
  unfold transfer
  split
  next => rfl
  next =>
    split
    next => rfl
    next =>
      split
      next => rfl
      next =>
        apply follow_of_visits (P := fun after => after.events = site.events)
        · exact fun _ _ kept => kept
        · rfl

theorem get_events : (get net options url site).2.events = site.events ++
    match (get net options url site).1 with
    | .error _ => []
    | .ok response => [.responded url.text response.status response.body.length] := by
  have kept := transfer_events net options url site
  unfold get
  generalize transfer net options url site = result at kept ⊢
  obtain ⟨e | response, after⟩ := result
  · simpa using kept
  · simpa [log] using kept

end Http

theorem Artifact.write_events (path : Path) (value : Json.Value) (site : Site σ) :
    (Artifact.write path value site).2.events = site.events := by
  apply Artifact.write_of_stores (P := fun after => after.events = site.events)
  · unfold Site.create
    split
    next => rfl
    next => rfl
  · exact fun _ _ _ kept => kept

namespace Log

theorem admits_default {r : Record} (own : "tvfetch".toList <+: r.target.toList)
    (level : r.level.rank ≤ 4) : Filter.default.admits r := by
  have always : (⟨none, none, false, 3⟩ : Directive).applies r = true := rfl
  have program : (⟨some "tvfetch", none, false, 4⟩ : Directive).applies r = true := by
    simpa [Directive.applies] using own
  -- The directive for the library decides, or else that for the program. Both say the same.
  cases library : (⟨some "tvfetch_core", none, false, 4⟩ : Directive).applies r with
  | true =>
    have decides : Filter.default.decisive? r = some ⟨some "tvfetch_core", none, false, 4⟩ := by
      simp only [Filter.decisive?, Filter.default, List.filter_cons, always, program, library,
        List.filter_nil, reduceIte]
      decide
    simpa [Filter.admits, decides] using level
  | false =>
    have decides : Filter.default.decisive? r = some ⟨some "tvfetch", none, false, 4⟩ := by
      simp only [Filter.decisive?, Filter.default, List.filter_cons, always, program, library,
        List.filter_nil, reduceIte, Bool.false_eq_true]
      decide
    simpa [Filter.admits, decides] using level

-- The default filter as it is written in a variable.
example : Filter.parse? "info,tvfetch=debug,tvfetch_core=debug" = some .default := by
  decide +kernel

/-- Whatever is logged is debug output at least, and of the program or its library. -/
theorem own_record (event : Event) :
    "tvfetch".toList <+: event.record.target.toList ∧ event.record.level.rank ≤ 4 := by
  cases event <;> simp [Event.record, Level.rank]

theorem lines_default (time : String) (events : List Event) :
    lines .default time events = events.map fun event => event.record.line time := by
  have all : (events.map Event.record).filter Filter.default.admits = events.map Event.record := by
    rw [List.filter_eq_self]
    intro record member
    obtain ⟨event, -, rfl⟩ := List.mem_map.1 member
    obtain ⟨own, level⟩ := own_record event
    exact admits_default own level
  rw [lines, all, List.map_map]
  rfl

end Log

namespace Batch

/-! ## The story of a run -/

section Story

variable (net : Network σ) (batch : Batch) (site : Site σ)

/-- What is logged of a transfer: the response, if there is one. -/
def responses (key : Key) : List Event :=
  match batch.source.resource key with
  | .error _ => []
  | .ok url =>
    match (Http.get net batch.http url site).1 with
    | .error _ => []
    | .ok response => [.responded url.text response.status response.body.length]

/-- What is logged of a key that is attempted: its response, and its file if the line was accepted. -/
def chapter (accepted : Bytes) (k : Nat) : List Event :=
  batch.responses net (batch.before net site k) (.ofNat k) ++
    if transcript (k + 1) <+: accepted then
      [.artifactWritten (.ofNat k) (batch.artifactPath (.ofNat k))]
    else []

/-- What is logged at the end. -/
def closing : Except BatchError (List Path) → List Event
  | .ok _ => [.batchComplete Key.count]
  | .error (.key failure) => [.fetchFailed failure.key failure.error]
  | .error (.output _) => []

/-- What is logged of a run that attempted so many keys, by the progress that was accepted and by
its answer. -/
def story (attempted : Nat) (accepted : Bytes) (answer : Except BatchError (List Path)) :
    List Event :=
  if transcript 0 <+: accepted then
    .startingBatch batch.source.base.text batch.outDir Key.count ::
      (List.range attempted).flatMap (batch.chapter net site accepted) ++ closing answer
  else []

end Story

/-- Which progress goes with an answer, and how many keys were attempted. -/
inductive Heard : Except BatchError (List Path) → Nat → Bytes → Prop where
  | complete (written : List Path) : Heard (.ok written) Key.count (transcript Key.count)
  /-- The lines of the keys before the one that failed. -/
  | failed (failure : KeyFailure) :
      Heard (.error (.key failure)) (failure.key.index + 1) (transcript failure.key.index)
  | unannounced (e : IoError) {part : Bytes} (short : part.length < (transcript 0).length)
      (front : part <+: transcript 0) : Heard (.error (.output e)) 0 part
  /-- The last line is cut off. -/
  | unheard (e : IoError) (k : Nat) {part : Bytes}
      (short : part.length < (gotPieces (.ofNat k)).flatten.length)
      (front : part <+: (gotPieces (.ofNat k)).flatten) :
      Heard (.error (.output e)) (k + 1) (transcript k ++ part)

/-- Answer, progress and log of a run agree. -/
structure Told (net : Network σ) (batch : Batch) (site : Site σ) (attempted : Nat)
    (accepted : Bytes) (ended : Except BatchError (List Path) × Site σ) : Prop where
  within : attempted ≤ Key.count
  heard : Heard ended.1 attempted accepted
  progress : ended.2.progress = site.progress.accept accepted
  alike : Alike ended.2 (batch.before net site attempted)
  events : ended.2.events = site.events ++ batch.story net site attempted accepted ended.1

variable {net : Network σ} {batch : Batch} {site : Site σ}

/-! ## One key -/

theorem keep_events (batch : Batch) (key : Key) (response : Http.Response) (asked : Site σ) :
    (batch.keep key response asked).2.events = asked.events := by
  apply keep_of_write (P := fun after => after.events = asked.events)
  · rfl
  · exact fun value => Artifact.write_events (batch.artifactPath key) value asked

theorem fetchOne_events (net : Network σ) (batch : Batch) (key : Key) (site : Site σ) :
    (batch.fetchOne net key site).2.events = site.events ++ batch.responses net site key := by
  cases found : batch.source.resource key with
  | error fault => simp only [fetchOne, responses, found, List.append_nil]
  | ok url =>
    have logged := Http.get_events net batch.http url site
    simp only [responses, found]
    rcases got : Http.get net batch.http url site with ⟨e | response, after⟩
    · rw [got] at logged
      rwa [fetchOne_of_error found got]
    · rw [got] at logged
      rwa [fetchOne_of_response found got, keep_events]

theorem responses_of_alike {a b : Site σ} (net : Network σ) (batch : Batch) (alike : Alike a b)
    (key : Key) : batch.responses net a key = batch.responses net b key := by
  unfold responses
  split
  next => rfl
  next url _ => rw [(Http.get_same net alike batch.http url).answer]

/-! ## Keys one after the other -/

theorem flatten_gotPieces_pos (key : Key) : 0 < (gotPieces key).flatten.length := by
  have opening : Utf8.encode "Got " ≠ [] := by decide
  exact List.length_pos_iff.2 (List.append_ne_nil_of_left_ne_nil opening _)

/-- As long as the lines of the first keys were accepted, it does not matter which others were. -/
theorem chapters_congr {k : Nat} {a b : Bytes} (inA : transcript k <+: a)
    (inB : transcript k <+: b) : (List.range k).flatMap (batch.chapter net site a) =
      (List.range k).flatMap (batch.chapter net site b) := by
  apply List.flatMap_congr
  intro i member
  have early : transcript (i + 1) <+: transcript k := transcript_mono (List.mem_range.1 member)
  rw [chapter, chapter, if_pos (early.trans inA), if_pos (early.trans inB)]

/-- A key of which the line was accepted has the whole chapter. -/
theorem chapter_announced (k : Nat) : batch.chapter net site (transcript (k + 1)) k =
    batch.responses net (batch.before net site k) (.ofNat k) ++
      [.artifactWritten (.ofNat k) (batch.artifactPath (.ofNat k))] := by
  rw [chapter, if_pos (List.prefix_refl _)]

/-- A key of which the line is not accepted in full has only its response. -/
theorem chapter_unheard {k : Nat} {part : Bytes}
    (short : part.length < (gotPieces (.ofNat k)).flatten.length) :
    batch.chapter net site (transcript k ++ part) k =
      batch.responses net (batch.before net site k) (.ofNat k) := by
  have unheard : ¬transcript (k + 1) <+: transcript k ++ part := by
    intro front
    have le := front.length_le
    rw [transcript_succ, List.length_append, List.length_append] at le
    omega
  rw [chapter, if_neg unheard, List.append_nil]

/-- The fetches of `k` keys are done, and progress and log say so. -/
structure Telling (net : Network σ) (batch : Batch) (site : Site σ) (written : List Path) (k : Nat)
    (here : Site σ) : Prop where
  written : written.length = k
  progress : here.progress = site.progress.accept (transcript k)
  alike : Alike here (batch.before net site k)
  events : here.events = site.events ++
    .startingBatch batch.source.base.text batch.outDir Key.count ::
      (List.range k).flatMap (batch.chapter net site (transcript k))

namespace Telling

variable {written : List Path} {k : Nat} {here after : Site σ} {answer : Except FetchError Path}

/-- The fetch of the next key. Its file is not announced yet. -/
theorem fetched (telling : Telling net batch site written k here)
    (fetched : batch.fetchOne net (.ofNat k) here = (answer, after)) :
    after.progress = site.progress.accept (transcript k) ∧
      Alike after (batch.before net site (k + 1)) ∧
      after.events = here.events ++ batch.responses net (batch.before net site k) (.ofNat k) := by
  have same := (fetchOne_same net batch (.ofNat k) telling.alike).alike
  have worked := fetchOne_worked net batch (.ofNat k) here
  have logged := fetchOne_events net batch (.ofNat k) here
  rw [responses_of_alike net batch telling.alike] at logged
  rw [fetchOne_before, fetched] at same
  rw [fetched] at worked logged
  exact ⟨worked.progress.trans telling.progress, same, logged⟩

/-- What is told if the line of the next key is not accepted in full. -/
theorem story_unheard (telling : Telling net batch site written k here) {part : Bytes}
    (short : part.length < (gotPieces (.ofNat k)).flatten.length)
    (answer : Except BatchError (List Path)) :
    here.events ++ batch.responses net (batch.before net site k) (.ofNat k) ++ closing answer =
      site.events ++ batch.story net site (k + 1) (transcript k ++ part) answer := by
  have opened : transcript 0 <+: transcript k ++ part :=
    (transcript_mono (Nat.zero_le k)).trans (List.prefix_append _ _)
  have same : (List.range k).flatMap (batch.chapter net site (transcript k ++ part)) =
      (List.range k).flatMap (batch.chapter net site (transcript k)) :=
    chapters_congr (List.prefix_append _ _) (List.prefix_refl _)
  rw [story, if_pos opened, List.range_succ, List.flatMap_append, List.flatMap_singleton, same,
    chapter_unheard short, telling.events]
  simp

theorem complete (telling : Telling net batch site written Key.count here) :
    Told net batch site Key.count (transcript Key.count)
      (.ok written, here.log (.batchComplete written.length)) where
  within := Nat.le_refl _
  heard := .complete written
  progress := telling.progress
  alike := telling.alike.log _
  events := by
    rw [story, if_pos (transcript_mono (Nat.zero_le _))]
    simp [log, telling.events, closing, telling.written]

theorem failed {e : FetchError} (telling : Telling net batch site written k here)
    (within : k < Key.count) (fetched : batch.fetchOne net (.ofNat k) here = (.error e, after)) :
    Told net batch site (k + 1) (transcript k)
      (.error (.key ⟨.ofNat k, e⟩), after.log (.fetchFailed (.ofNat k) e)) := by
  obtain ⟨progress, alike, logged⟩ := telling.fetched fetched
  have heard : Heard (.error (.key ⟨.ofNat k, e⟩)) (k + 1) (transcript k) := by
    have failed := Heard.failed ⟨.ofNat k, e⟩
    rwa [Key.index_ofNat within] at failed
  refine {
    within, heard, progress
    alike := alike.log _
    events := ?_ }
  -- Nothing of the line is printed, as if it were cut off before its first byte.
  have nothing : ([] : Bytes).length < (gotPieces (.ofNat k)).flatten.length :=
    flatten_gotPieces_pos _
  have told := telling.story_unheard nothing (.error (.key ⟨.ofNat k, e⟩))
  rw [List.append_nil] at told
  rw [← told, ← logged]
  rfl

theorem refused {path : Path} {e : IoError} {announced : Site σ}
    (telling : Telling net batch site written k here) (within : k < Key.count)
    (fetched : batch.fetchOne net (.ofNat k) here = (.ok path, after))
    (printed : after.printAll (gotPieces (.ofNat k)) = (.error e, announced)) :
    ∃ accepted, Told net batch site (k + 1) accepted (.error (.output e), announced) := by
  obtain ⟨progress, alike, logged⟩ := telling.fetched fetched
  obtain ⟨part, front, short, took⟩ := printAll_eq_error printed
  obtain ⟨quiet, kept⟩ := printAll_quiet printed
  refine ⟨transcript k ++ part, {
    within
    heard := .unheard e k short front
    progress := ?_
    alike := quiet.trans alike
    events := ?_ }⟩
  · rw [took, progress, Sink.accept_accept]
  · -- A refused announcement is not logged.
    rw [kept, logged, ← telling.story_unheard short]
    exact (List.append_nil _).symm

theorem announced {path : Path} {announced : Site σ}
    (telling : Telling net batch site written k here)
    (fetched : batch.fetchOne net (.ofNat k) here = (.ok path, after))
    (printed : after.printAll (gotPieces (.ofNat k)) = (.ok (), announced)) :
    Telling net batch site (written ++ [path]) (k + 1)
      (announced.log (.artifactWritten (.ofNat k) path)) := by
  obtain ⟨progress, alike, logged⟩ := telling.fetched fetched
  have took := printAll_eq_ok printed
  obtain ⟨quiet, kept⟩ := printAll_quiet printed
  have own : path = batch.artifactPath (.ofNat k) :=
    (keeps_of_fetchOne (congrArg Prod.fst fetched)).1
  refine {
    written := by rw [List.length_append, telling.written, List.length_singleton]
    progress := ?_
    alike := (quiet.trans alike).log _
    events := ?_ }
  · rw [transcript_succ, ← Sink.accept_accept, ← progress]
    exact took
  · have same : (List.range k).flatMap (batch.chapter net site (transcript (k + 1))) =
        (List.range k).flatMap (batch.chapter net site (transcript k)) :=
      chapters_congr (transcript_mono (Nat.le_succ k)) (List.prefix_refl _)
    rw [List.range_succ, List.flatMap_append, List.flatMap_singleton, same, chapter_announced, own]
    simp [log, kept, logged, telling.events]

end Telling

/-! ## Runs -/

theorem telling_loop (net : Network σ) (batch : Batch) (site : Site σ) :
    Loop net batch (Telling net batch site) fun ended =>
      ∃ attempted accepted, Told net batch site attempted accepted ended where
  complete telling := ⟨_, _, telling.complete⟩
  failed telling within fetched := ⟨_, _, telling.failed within fetched⟩
  refused telling within fetched printed := ⟨_, telling.refused within fetched printed⟩
  announced telling _ fetched printed := telling.announced fetched printed

theorem exists_told (net : Network σ) (batch : Batch) (site : Site σ) :
    ∃ attempted accepted, Told net batch site attempted accepted (batch.run net site) := by
  rw [run_eq]
  apply (telling_loop net batch site).runOver
  · intro e after printed
    obtain ⟨part, front, short, took⟩ := printAll_eq_error printed
    obtain ⟨quiet, kept⟩ := printAll_quiet printed
    rw [flatten_keyListPieces] at front short
    have unannounced : ¬transcript 0 <+: part := fun whole =>
      Nat.not_le_of_lt short whole.length_le
    refine ⟨0, part, Nat.zero_le _, .unannounced e short front, took, quiet, ?_⟩
    rw [kept, story, if_neg unannounced, List.append_nil]
  · intro after printed
    have took := printAll_eq_ok printed
    obtain ⟨quiet, kept⟩ := printAll_quiet printed
    rw [flatten_keyListPieces] at took
    exact ⟨rfl, took, quiet.log _, congrArg (· ++ [_]) kept⟩

/-- Log, progress and answer of a run agree, whatever the servers, the files and the sink do. By
the default filter all of the log is written. -/
theorem run_told (net : Network σ) (batch : Batch) (site : Site σ) :
    let ended := batch.run net site
    ∃ attempted accepted, Told net batch site attempted accepted ended ∧
      ∀ time, Log.lines .default time (ended.2.events.drop site.events.length) =
        (batch.story net site attempted accepted ended.1).map fun event => event.record.line time := by
  intro ended
  obtain ⟨attempted, accepted, told⟩ := exists_told net batch site
  refine ⟨attempted, accepted, told, fun time => ?_⟩
  rw [Log.lines_default, told.events, List.drop_left]

end Batch

end VectorFetch

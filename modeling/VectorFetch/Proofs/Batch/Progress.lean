import VectorFetch.Proofs.Batch.Frame
import VectorFetch.Proofs.Text.Utf8

/-!
# Progress as a record

* `completeLines`: the lines of progress that were accepted to their end.
* `Record`: what the lines of a run that was stopped say, and what was done by then.
* `record_of`: the record of files on which the fetches of so many keys are done.
* `run_recorded`: wherever a run is stopped, its lines are a correct record.
-/

namespace VectorFetch.Batch

open Site

variable {σ : Type} {net : Network σ} {batch : Batch} {site : Site σ}

/-! ## Lines -/

/-- The lines that are there to their end, without it. -/
def completeLines (bytes : Bytes) : List Bytes := (bytes.splitOn 0x0A).dropLast

theorem completeLines_of_not_mem {bytes : Bytes} (unended : 0x0A ∉ bytes) :
    completeLines bytes = [] := by
  rw [completeLines, List.splitOn_eq_singleton unended, List.dropLast_singleton]

theorem completeLines_cons {text : Bytes} (single : 0x0A ∉ text) (rest : Bytes) :
    completeLines (text ++ 0x0A :: rest) = text :: completeLines rest := by
  rw [completeLines, List.splitOn_append_cons_self, List.splitOn_eq_singleton single,
    List.singleton_append, List.dropLast_cons_of_ne_nil (List.splitOn_ne_nil _ _), completeLines]

theorem line_eq (text : String) : line text = Utf8.encode text ++ [0x0A] := by
  simp [line, Utf8.encode]
  rfl

theorem newline_not_mem_encode {text : String} (single : '\n' ∉ text.toList) :
    0x0A ∉ Utf8.encode text := fun member =>
  single (Utf8.ofUInt8_mem_of_mem_encodeChars (b := 0x0A) (by decide) member)

theorem newline_not_mem_text (key : Key) : '\n' ∉ key.text.toList := by
  have other : ∀ n < 16, n.digitChar ≠ '\n' := by decide
  have high := other (key.index / 16) (by have := key.index_lt; omega)
  have low := other (key.index % 16) (by omega)
  simp [Key.text, high.symm, low.symm]

theorem newline_not_mem_intercalate {texts : List (List Char)}
    (single : ∀ text ∈ texts, '\n' ∉ text) :
    '\n' ∉ [',', ' '].intercalate texts := by
  induction texts with
  | nil => simp
  | cons text texts ih =>
    rw [List.forall_mem_cons] at single
    cases texts with
    | nil => simpa using single.1
    | cons next texts =>
      rw [List.intercalate_cons_cons]
      simp [single.1, ih single.2]

theorem newline_not_mem_keyList : 0x0A ∉ Utf8.encode keyList := by
  apply newline_not_mem_encode
  simp only [keyList, String.toList_append, String.toList_intercalate, List.mem_append, not_or]
  refine ⟨⟨by decide, ?_⟩, by decide⟩
  apply newline_not_mem_intercalate
  intro text member
  simp only [List.map_map, List.mem_map, Function.comp_apply] at member
  obtain ⟨key, -, rfl⟩ := member
  simpa [toString] using newline_not_mem_text key

/-- The line of a key without its end. -/
def gotLine (key : Key) : Bytes := Utf8.encode ("Got " ++ key.text)

theorem newline_not_mem_gotLine (key : Key) : 0x0A ∉ gotLine key := by
  apply newline_not_mem_encode
  simp [newline_not_mem_text key]

theorem gotLine_injective {a b : Key} (same : gotLine a = gotLine b) : a = b := by
  have texts : a.text = b.text := by
    have spelled := Utf8.encodeChars_injective same
    simpa [← String.toList_inj] using spelled
  exact Key.text_injective texts

theorem gotLine_ne_keyList (key : Key) : gotLine key ≠ Utf8.encode keyList := by
  intro same
  have spelled := Utf8.encodeChars_injective same
  simp [keyList] at spelled

/-- What is accepted of progress says how many keys have been announced. -/
theorem completeLines_transcript (k : Nat) {rest : Bytes} (unended : 0x0A ∉ rest) :
    completeLines (transcript k ++ rest) =
      Utf8.encode keyList :: (List.range k).map fun i => gotLine (.ofNat i) := by
  have lines : ∀ keys : List Nat, completeLines
      ((keys.flatMap fun i => line ("Got " ++ (Key.ofNat i).text)) ++ rest) =
        keys.map fun i => gotLine (.ofNat i) := by
    intro keys
    induction keys with
    | nil => exact completeLines_of_not_mem unended
    | cons key keys ih =>
      have single := newline_not_mem_gotLine (.ofNat key)
      rw [List.flatMap_cons, List.map_cons, line_eq, ← gotLine, List.append_assoc, List.append_assoc,
        List.singleton_append, completeLines_cons single, ih]
  rw [transcript, line_eq, List.append_assoc, List.append_assoc, List.singleton_append,
    completeLines_cons newline_not_mem_keyList, lines]

/-- A front of a line is the line, or it does not get to its end. -/
theorem prefix_line {text : String} (single : 0x0A ∉ Utf8.encode text) {part : Bytes}
    (front : part <+: line text) : part = line text ∨ 0x0A ∉ part := by
  rw [line_eq] at front ⊢
  rcases List.prefix_concat_iff.1 front with whole | short
  · exact .inl whole
  · exact .inr fun member => single (short.subset member)

/-! ## Records -/

/-- The paths of the files that may have been opened when the lines of so many keys were out:
theirs, and that of the next key. -/
def Opened (batch : Batch) (announced : Nat) (path : Path) : Prop :=
  ∃ k ≤ announced, k < Key.count ∧ path = batch.artifactPath (.ofNat k)

/-- The lines of so many keys are out, and what was done is what they say. -/
structure Record (net : Network σ) (batch : Batch) (site : Site σ) (done : History)
    (announced : Nat) : Prop where
  within : announced ≤ Key.count
  /-- The lines that were accepted in full are those of the first keys, behind the list of all. As
  long as there is none, nothing else was done. -/
  lines : completeLines done.progress =
      Utf8.encode keyList :: (List.range announced).map (fun k => gotLine (.ofNat k)) ∨
    announced = 0 ∧ completeLines done.progress = [] ∧ done.Prints
  heard : ∀ key : Key, gotLine key ∈ completeLines done.progress ↔ key.index < announced
  /-- The file of an announced key has all of the document of what was received for it. -/
  finished : ∀ k < announced, ∃ body value,
    batch.body? net (.ofNat k) (batch.before net site k) = some body ∧
    Json.parse body = .ok value ∧
    site.files.Keeps (done.replay site.cwd site.files) site.cwd (batch.artifactPath (.ofNat k))
      (Utf8.encode value.pretty)
  /-- No file was opened or written but those of the announced keys and of one more. -/
  touched : ∀ effect ∈ done, effect.Within site.files site.cwd (batch.Opened announced)
  changed : site.files.Edits (Effect.PlaceOf site.files site.cwd (batch.Opened announced))
    (done.replay site.cwd site.files)
  /-- No key was asked for but the announced ones and one more. -/
  requests : done.requests <+:
    (List.range (min (announced + 1) Key.count)).flatMap (batch.requestsOf net site)

/-- The record of a run that was stopped when the fetches of `n` keys were done and announced. It
may have begun with the next key, and with a line that is not at its end. -/
theorem record_of {n : Nat} (within : n ≤ Key.count) (reached : n ≤ batch.stop net site)
    {done : History} (rest : Bytes) (progress : done.progress = transcript n ++ rest)
    (unended : 0x0A ∉ rest)
    (touched : ∀ effect ∈ done, effect.Within site.files site.cwd (batch.Opened n))
    (may : Place → Prop)
    (edits : (batch.before net site n).files.Edits may (done.replay site.cwd site.files))
    (away : ∀ k < n, ∀ dir, ¬may (dir ++ [(Key.ofNat k).fileName]))
    (requests : done.requests <+:
      (List.range (min (n + 1) Key.count)).flatMap (batch.requestsOf net site)) :
    Record net batch site done n := by
  have lines : completeLines done.progress =
      Utf8.encode keyList :: (List.range n).map fun k => gotLine (.ofNat k) := by
    rw [progress, completeLines_transcript n unended]
  refine {
    within, touched, requests
    lines := .inl lines
    heard := fun key => ?_
    finished := fun k early => ?_
    changed := History.replay_edits touched (.refl _ site.files) }
  · -- A line tells its key, and the line that opens the run tells none.
    rw [lines, List.mem_cons, or_iff_right (gotLine_ne_keyList key), List.mem_map]
    constructor
    · rintro ⟨k, member, same⟩
      rw [List.mem_range] at member
      rwa [← gotLine_injective same, Key.index_ofNat (Nat.lt_of_lt_of_le member within)]
    · intro early
      exact ⟨key.index, List.mem_range.2 early, by rw [key.ofNat_index]⟩
  · -- What came later was written elsewhere.
    obtain ⟨body, value, answered, accepted, keeps⟩ :=
      keeps_before (Nat.lt_of_lt_of_le early reached) early within
    refine ⟨body, value, answered, accepted, keeps.of_edits edits fun spot located => ?_⟩
    obtain ⟨dir, place⟩ := Files.locate_join (Key.ofNat k).isName_fileName located
    rw [place]
    exact away k early dir

/-- The record of a run that was stopped before the line of all keys was out. -/
theorem record_of_prints {done : History} (prints : done.Prints) (unended : 0x0A ∉ done.progress) :
    Record net batch site done 0 := by
  have none := completeLines_of_not_mem unended
  have touched : ∀ effect ∈ done, effect.Within site.files site.cwd (batch.Opened 0) := by
    intro effect member
    obtain ⟨bytes, rfl⟩ := prints effect member
    exact .print bytes
  exact {
    within := Nat.zero_le _
    lines := .inr ⟨rfl, none, prints⟩
    heard := fun key => by simp [none]
    finished := nofun
    touched
    changed := History.replay_edits touched (.refl _ site.files)
    requests := prints.requests_eq_nil ▸ List.nil_prefix }

/-! ## Histories of a run -/

/-- Wherever a run with this history is stopped, there is a record. -/
def Recorded (net : Network σ) (batch : Batch) (site : Site σ) (done : History) : Prop :=
  ∀ part, done.Stopped part → ∃ announced, Record net batch site part announced

theorem Recorded.append {past more : History} (recorded : Recorded net batch site past)
    (further : ∀ part, more.Stopped part →
      ∃ announced, Record net batch site (past ++ part) announced) :
    Recorded net batch site (past ++ more) := by
  intro part stopped
  rcases stopped.of_append with early | ⟨rest, late, rfl⟩
  · exact recorded part early
  · exact further rest late

/-- What is done for the fetch of a key. -/
structure Fetching (net : Network σ) (batch : Batch) (site : Site σ) (k : Nat) (done : History) :
    Prop where
  touched : ∀ effect ∈ done,
    effect.Within site.files site.cwd (· = batch.artifactPath (.ofNat k))
  progress : done.progress = []
  requests : done.requests = batch.requestsOf net site k
  files : done.replay site.cwd (batch.before net site k).files =
    (batch.before net site (k + 1)).files

theorem exists_fetching {k : Nat} {here : Site σ} (alike : Alike here (batch.before net site k)) :
    ∃ done, Did here done (batch.fetchOne net (.ofNat k) here).2 ∧
      Fetching net batch site k done := by
  obtain ⟨done, did, touched⟩ := fetchOne_confined net batch (.ofNat k) here
  have worked := fetchOne_worked net batch (.ofNat k) here
  have same := (fetchOne_same net batch (.ofNat k) alike).alike
  rw [fetchOne_before] at same
  have cwd : here.cwd = site.cwd := alike.cwd.trans (cwd_before net batch site k)
  refine ⟨done, did, {
    touched := fun effect member => ?_
    progress := did.progress_eq_nil worked.progress
    requests := ?_
    files := ?_ }⟩
  · have within := touched effect member
    rw [alike.files, cwd] at within
    exact within.of_locate fun path spot => (locate_before net batch site k).1
  · rw [requestsOf, ← same.requests, ← alike.requests, did.requests, List.drop_left]
  · rw [← same.files, did.files, cwd, alike.files]

/-- What was done is the fetches of `k` keys, and their lines are out. -/
structure Reached (net : Network σ) (batch : Batch) (site : Site σ) (k : Nat) (past : History) :
    Prop where
  within : k ≤ Key.count
  reached : k ≤ batch.stop net site
  touched : ∀ effect ∈ past, effect.Within site.files site.cwd
    fun path => ∃ i < k, path = batch.artifactPath (.ofNat i)
  progress : past.progress = transcript k
  requests : past.requests = (List.range k).flatMap (batch.requestsOf net site)
  files : past.replay site.cwd site.files = (batch.before net site k).files

variable {k : Nat} {past fetching printing : History}

theorem Reached.opened (reached : Reached net batch site k past) :
    ∀ effect ∈ past, effect.Within site.files site.cwd (batch.Opened k) := by
  intro effect member
  refine (reached.touched effect member).mono fun path ⟨i, early, same⟩ => ?_
  exact ⟨i, Nat.le_of_lt early, Nat.lt_of_lt_of_le early reached.within, same⟩

theorem flatMap_range_mono {i n : Nat} (le : i ≤ n) (requests : Nat → List Http.Request) :
    (List.range i).flatMap requests <+: (List.range n).flatMap requests := by
  obtain ⟨more, rfl⟩ := Nat.exists_eq_add_of_le le
  rw [List.range_add, List.flatMap_append]
  exact List.prefix_append _ _

theorem Reached.record (reached : Reached net batch site k past) :
    Record net batch site past k := by
  have le : k ≤ min (k + 1) Key.count := by
    have within := reached.within
    omega
  refine record_of reached.within reached.reached [] ?_ (by simp) reached.opened
    (fun _ => False) ?_ (fun _ _ _ => id) ?_
  · rw [reached.progress, List.append_nil]
  · rw [reached.files]
    exact .refl _ _
  · rw [reached.requests]
    exact flatMap_range_mono le _

/-- The record while the next key is fetched and its line is not at its end. -/
theorem Reached.record_append (reached : Reached net batch site k past) (within : k < Key.count)
    {more : History}
    (touched : ∀ effect ∈ more,
      effect.Within site.files site.cwd (· = batch.artifactPath (.ofNat k)))
    (unended : 0x0A ∉ more.progress) (requests : more.requests <+: batch.requestsOf net site k) :
    Record net batch site (past ++ more) k := by
  have located : ∀ path spot, site.files.locate site.cwd path = .ok spot →
      (batch.before net site k).files.locate site.cwd path = .ok spot :=
    fun path spot => (locate_before net batch site k).2
  refine record_of reached.within reached.reached more.progress ?_ unended ?_
    (Effect.PlaceOf (batch.before net site k).files site.cwd
      (· = batch.artifactPath (.ofNat k))) ?_ ?_ ?_
  · rw [History.progress_append, reached.progress]
  · intro effect member
    rcases List.mem_append.1 member with early | late
    · exact reached.opened effect early
    · exact (touched effect late).mono fun path same => ⟨k, Nat.le_refl k, within, same⟩
  · rw [History.replay_append, reached.files]
    exact History.replay_edits (fun effect member => (touched effect member).of_locate located)
      (.refl _ _)
  · -- The file of an earlier key has another name.
    rintro i early dir ⟨_, rfl, leads⟩
    obtain ⟨dir', place⟩ := Files.locate_join (Key.ofNat k).isName_fileName leads
    exact fileName_ne early within (List.singleton_inj.1 (List.append_inj' place rfl).2)
  · rw [Nat.min_eq_left within, History.requests_append, reached.requests, List.range_succ,
      List.flatMap_append, List.flatMap_singleton]
    exact (List.prefix_append_right_inj _).2 requests

theorem Fetching.recorded (fetched : Fetching net batch site k fetching) (within : k < Key.count)
    (reached : Reached net batch site k past) (recorded : Recorded net batch site past) :
    Recorded net batch site (past ++ fetching) := by
  refine recorded.append fun part stopped => ⟨k, reached.record_append within ?_ ?_ ?_⟩
  · exact stopped.forall_within fetched.touched
  · have none := stopped.progress
    rw [fetched.progress, List.prefix_nil] at none
    simp [none]
  · rw [← fetched.requests]
    exact stopped.requests

theorem flatten_gotPieces (key : Key) : (gotPieces key).flatten = line ("Got " ++ key.text) := by
  simp [gotPieces, linePieces, line, Utf8.encode]

/-- Behind its whole line, a key that was fetched is done. -/
theorem Fetching.reached (fetched : Fetching net batch site k fetching)
    (early : k < batch.stop net site) (reached : Reached net batch site k past)
    (prints : printing.Prints) (whole : printing.progress = line ("Got " ++ (Key.ofNat k).text)) :
    Reached net batch site (k + 1) (past ++ fetching ++ printing) where
  within := Nat.le_trans early stop_le
  reached := early
  touched effect member := by
    rcases List.mem_append.1 member with done | printed
    · rcases List.mem_append.1 done with before | last
      · exact (reached.touched effect before).mono fun path ⟨i, less, same⟩ =>
          ⟨i, Nat.lt_succ_of_lt less, same⟩
      · exact (fetched.touched effect last).mono fun path same => ⟨k, Nat.lt_succ_self k, same⟩
    · -- What is printed is no file.
      obtain ⟨bytes, rfl⟩ := prints effect printed
      exact .print bytes
  progress := by
    rw [History.progress_append, History.progress_append, reached.progress, fetched.progress, whole,
      transcript_succ, flatten_gotPieces, List.append_nil]
  requests := by
    rw [History.requests_append, History.requests_append, reached.requests, fetched.requests,
      prints.requests_eq_nil, List.range_succ, List.flatMap_append, List.flatMap_singleton,
      List.append_nil]
  files := by
    rw [History.replay_append, History.replay_append, reached.files, fetched.files, prints.replay_eq]

theorem reached_zero (net : Network σ) (batch : Batch) (site : Site σ) (prints : printing.Prints)
    (whole : printing.progress = line keyList) : Reached net batch site 0 printing where
  within := Nat.zero_le _
  reached := Nat.zero_le _
  touched effect member := by
    obtain ⟨bytes, rfl⟩ := prints effect member
    exact .print bytes
  progress := by rw [whole, transcript, List.range_zero, List.flatMap_nil, List.append_nil]
  requests := by rw [prints.requests_eq_nil, List.range_zero, List.flatMap_nil]
  files := prints.replay_eq site.cwd site.files

/-- While the line of a key is announced, it is the last one or not yet at its end. -/
theorem Fetching.recorded_of_prints (fetched : Fetching net batch site k fetching)
    (early : k < batch.stop net site) (reached : Reached net batch site k past)
    (recorded : Recorded net batch site past) (prints : printing.Prints)
    (front : printing.progress <+: line ("Got " ++ (Key.ofNat k).text)) :
    Recorded net batch site (past ++ fetching ++ printing) := by
  have within : k < Key.count := Nat.lt_of_lt_of_le early stop_le
  refine (fetched.recorded within reached recorded).append fun part stopped => ?_
  have printed := stopped.prints prints
  -- Only with the end of its line the key counts as announced.
  rcases prefix_line (newline_not_mem_gotLine (.ofNat k)) (stopped.progress.trans front) with
    whole | unended
  · exact ⟨k + 1, (fetched.reached early reached printed whole).record⟩
  · refine ⟨k, ?_⟩
    rw [List.append_assoc]
    refine reached.record_append within ?_ ?_ ?_
    · intro effect member
      rcases List.mem_append.1 member with mine | line
      · exact fetched.touched effect mine
      · obtain ⟨bytes, rfl⟩ := printed effect line
        exact .print bytes
    · rwa [History.progress_append, fetched.progress, List.nil_append]
    · rw [History.requests_append, fetched.requests, printed.requests_eq_nil, List.append_nil]

/-! ## Runs -/

/-- The keys from `k` on, behind the fetches and the lines of those before. -/
theorem fetchAll_recorded (left k : Nat) (total : k + left = Key.count) {here : Site σ}
    (alike : Alike here (batch.before net site k)) (did : Did site past here)
    (reached : Reached net batch site k past) (recorded : Recorded net batch site past)
    (written : List Path) :
    ∃ done, Did site done
        (batch.fetchAll net written ((List.range' k left).map Key.ofNat) here).2 ∧
      Recorded net batch site done := by
  -- By induction on how many keys are left. `past` is what was done before key `k`.
  induction left generalizing k here past written with
  | zero => exact ⟨past, did, recorded⟩
  | succ left ih =>
    obtain ⟨mine, fetched, fetching⟩ := exists_fetching alike
    have same := fetchOne_same net batch (.ofNat k) alike
    rw [fetchOne_before] at same
    rw [List.range'_succ, List.map_cons, fetchAll]
    generalize batch.fetchOne net (.ofNat k) here = ended at same fetched ⊢
    cases attempted : batch.attempt net site k with
    | error e =>
      rw [attempted] at same
      cases same with
      | error alike =>
        exact ⟨past ++ mine, (did.trans fetched).log _,
          fetching.recorded (by omega) reached recorded⟩
    | ok path =>
      have early := lt_stop_of_ok reached.reached (by omega) attempted
      rw [attempted] at same
      cases same with
      | @ok _ after _ alike =>
        obtain ⟨prints, printed, quiet, front, whole⟩ := did_printAll after (gotPieces (.ofNat k))
        have unheard := printAll_alike after (gotPieces (.ofNat k))
        rw [flatten_gotPieces] at front whole
        have further := fetching.recorded_of_prints early reached recorded quiet front
        have didAll := (did.trans fetched).trans printed
        dsimp only
        generalize after.printAll (gotPieces (.ofNat k)) = result at didAll whole unheard ⊢
        obtain ⟨e | _, announced⟩ := result
        · exact ⟨_, didAll, further⟩
        · exact ih (k + 1) (by omega) ((unheard.trans alike).log _) (didAll.log _)
            (fetching.reached early reached quiet (whole rfl)) further _

/-- Before its first fetch a run has announced the list of keys, or a part of it. -/
theorem recorded_of_opening {done : History} (prints : done.Prints)
    (front : done.progress <+: line keyList) :
    Recorded net batch site done := by
  intro part stopped
  have printed := stopped.prints prints
  rcases prefix_line newline_not_mem_keyList (stopped.progress.trans front) with whole | unended
  · exact ⟨0, (reached_zero net batch site printed whole).record⟩
  · exact ⟨0, record_of_prints printed unended⟩

theorem runOver_recorded (net : Network σ) (batch : Batch) (site : Site σ)
    {announcement : List Bytes}
    (opening : announcement.flatten = line keyList) :
    ∃ done, Did site done
        (batch.runOver net announcement ((List.range' 0 Key.count).map Key.ofNat) site).2 ∧
      Recorded net batch site done := by
  obtain ⟨prints, printed, quiet, front, whole⟩ := did_printAll site announcement
  have unheard := printAll_alike site announcement
  rw [opening] at front whole
  unfold runOver
  generalize site.printAll announcement = result at printed unheard whole ⊢
  obtain ⟨e | _, announced⟩ := result
  · exact ⟨prints, printed, recorded_of_opening quiet front⟩
  · have started := printed.log (.startingBatch batch.source.base.text batch.outDir Key.count)
    obtain ⟨done, did, recorded⟩ := fetchAll_recorded Key.count 0 (Nat.zero_add _) (unheard.log _)
      started (reached_zero net batch site quiet (whole rfl))
      (recorded_of_opening quiet front) []
    -- Without a name for the keys the list of all of them would be unfolded here.
    generalize (List.range' 0 Key.count).map Key.ofNat = keys at did ⊢
    dsimp only
    split
    next ended =>
      rw [ended] at did
      exact ⟨done, did, recorded⟩
    next ended =>
      rw [ended] at did
      exact ⟨done, did.log _, recorded⟩

/-- Wherever a run is stopped, whatever the servers, the files and the sink do, its lines are a
correct record of it. -/
theorem run_recorded (net : Network σ) (batch : Batch) (site : Site σ) :
    ∃ done, Did site done (batch.run net site).2 ∧ Recorded net batch site done := by
  have opening : keyListPieces.flatten = line keyList := by
    rw [flatten_keyListPieces, transcript, List.range_zero, List.flatMap_nil, List.append_nil]
  have recorded := runOver_recorded net batch site opening
  rwa [← List.range_eq_range'] at recorded

end VectorFetch.Batch

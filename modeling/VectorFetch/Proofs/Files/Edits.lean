import VectorFetch.Proofs.Files

/-!
# Edits

* `Rewrite`: what writing makes of a place: a new file, or other bytes in a file.
* `Edits`: files of which only some places were written. No directory is made or removed, and
  nothing that is there goes away.
* `create_edits`, `store_edits`, `store_appends`: opening a file and storing bytes in it.
* `free_of_create`, `create_of_free`: a file that is made where nothing was.
* `HasRoom`, `store_of_empty`: how much is stored in it.
-/

namespace VectorFetch

/-- What writing makes of a place, with the capacity of a file that is made there. -/
inductive Rewrite (fresh : Capacity) : Option Node → Option Node → Prop where
  | same (node : Option Node) : Rewrite fresh node node
  | new (content : Bytes) : Rewrite fresh none (some (.file content fresh))
  | content (old new : Bytes) (capacity : Capacity) :
      Rewrite fresh (some (.file old capacity)) (some (.file new capacity))

namespace Rewrite

variable {fresh : Capacity} {a b c : Option Node}

theorem trans (first : Rewrite fresh a b) (second : Rewrite fresh b c) : Rewrite fresh a c := by
  cases first with
  | same => exact second
  | new =>
    cases second with
    | same => exact .new _
    | content => exact .new _
  | content =>
    cases second with
    | same => exact .content _ _ _
    | content => exact .content _ _ _

theorem directory_iff (rewrite : Rewrite fresh a b) :
    b = some .directory ↔ a = some .directory := by
  cases rewrite <;> simp

theorem ne_none (rewrite : Rewrite fresh a b) (there : a ≠ none) : b ≠ none := by
  cases rewrite with
  | same => exact there
  | new => exact nofun
  | content => exact nofun

end Rewrite

namespace Files

/-- Only some places were written. -/
structure Edits (may : Place → Prop) (before after : Files) : Prop where
  others : ∀ place, ¬may place → after.node? place = before.node? place
  rewrites : ∀ place,
    Rewrite (before.capacityAt place) (before.node? place) (after.node? place)
  limits : after.limits = before.limits

namespace Edits

variable {may might : Place → Prop} {a b c : Files}

theorem refl (may : Place → Prop) (files : Files) : Edits may files files :=
  ⟨fun _ _ => rfl, fun _ => .same _, rfl⟩

theorem capacityAt_eq (edits : Edits may a b) (place : Place) :
    b.capacityAt place = a.capacityAt place := by
  rw [capacityAt, edits.limits, capacityAt]

theorem trans (first : Edits may a b) (second : Edits may b c) : Edits may a c where
  others place away := (second.others place away).trans (first.others place away)
  rewrites place :=
    (first.rewrites place).trans (first.capacityAt_eq place ▸ second.rewrites place)
  limits := second.limits.trans first.limits

theorem mono (edits : Edits may a b) (wider : ∀ place, may place → might place) :
    Edits might a b where
  others place away := edits.others place fun may => away (wider place may)
  rewrites := edits.rewrites
  limits := edits.limits

/-- Where a path leads depends on directories alone. -/
theorem locate_iff (edits : Edits may a b) {cwd : Place} {path : Path} {spot : Spot} :
    b.locate cwd path = .ok spot ↔ a.locate cwd path = .ok spot :=
  ⟨locate_of_directories fun place => (edits.rewrites place).directory_iff.1,
    locate_of_directories fun place => (edits.rewrites place).directory_iff.2⟩

theorem touches {name : String} (edits : Edits may a b)
    (named : ∀ place, may place → ∃ dir, place = dir ++ [name]) : Touches name a b where
  others place away := edits.others place fun may =>
    let ⟨dir, here⟩ := named place may
    away dir here
  directories place := (edits.rewrites place).directory_iff
  devices place kept := by
    have rewrite := edits.rewrites place
    rw [kept] at rewrite
    generalize a.node? place = node at rewrite ⊢
    cases rewrite with
    | same => rfl

theorem set {place : Place} {node : Node} (notDirectory : a.node? place ≠ some .directory)
    (rewrite : Rewrite (a.capacityAt place) (a.node? place) (some node)) :
    Edits (· = place) a (a.set place node) where
  others other away := node?_set_of_ne away a node
  rewrites other := by
    by_cases here : other = place
    · subst here
      rwa [node?_set_of_ne_directory notDirectory]
    · rw [node?_set_of_ne here]
      exact .same _
  limits := rfl

end Edits

/-- Where nothing is written, the same is read. -/
theorem Edits.read_eq {may : Place → Prop} {a b : Files} (edits : a.Edits may b) {cwd : Place}
    {path : Path} {spot : Spot} (located : a.locate cwd path = .ok spot) (away : ¬may spot.place) :
    b.read cwd path = a.read cwd path := by
  simp only [read, located, edits.locate_iff.2 located, edits.others spot.place away]

theorem Keeps.of_edits {may : Place → Prop} {before a b : Files} {cwd : Place} {path : Path}
    {bytes : Bytes} (keeps : before.Keeps a cwd path bytes) (edits : a.Edits may b)
    (away : ∀ spot, a.locate cwd path = .ok spot → ¬may spot.place) :
    before.Keeps b cwd path bytes := by
  refine keeps.imp_right fun reads => ?_
  cases located : a.locate cwd path with
  | error e => simp [read, located] at reads
  | ok spot => rw [edits.read_eq located (away spot located), reads]

theorem create_edits {files after : Files} {cwd place : Place} {path : Path}
    (created : files.create cwd path = .ok (place, after)) : Edits (· = place) files after := by
  cases (openFile_eq_ok created).2 with
  | emptied there => exact .set (by simp [there]) (there ▸ .content _ [] _)
  | device => exact .refl _ files
  | new free => exact .set (by simp [free]) (free ▸ .new [])

theorem store_edits (files : Files) (place : Place) (bytes : Bytes) :
    Edits (· = place) files (files.store place bytes).2 := by
  unfold store
  split
  next content capacity there =>
    refine .set (by simp [there]) ?_
    rw [there]
    exact .content content _ capacity
  next => exact .refl _ files
  next => exact .refl _ files

/-- Bytes are stored behind those that a file holds. -/
theorem store_appends (files : Files) (place : Place) (bytes : Bytes) :
    (files.store place bytes).2.node? place = files.node? place ∨
      ∃ content more capacity, files.node? place = some (.file content capacity) ∧
        (files.store place bytes).2.node? place = some (.file (content ++ more) capacity) := by
  unfold store
  split
  next content capacity there =>
    have notDirectory : files.node? place ≠ some .directory := by simp [there]
    have calls : (sinkOf content capacity).perCall ≠ some 0 := by
      cases capacity <;> simp [sinkOf]
    have held : (sinkOf content capacity).taken = content := by
      cases capacity <;> rfl
    let taken := Sink.limit (sinkOf content capacity).room bytes.length
    refine .inr ⟨content, bytes.take taken, capacity, there, ?_⟩
    simp only [node?_set_of_ne_directory notDirectory, Sink.takeAll_eq calls,
      Sink.accept, held, taken]
  next => exact .inl rfl
  next => exact .inl rfl

/-! ## New files -/

/-- If nothing is at a path, then only a file can be made there. -/
theorem free_of_create {files after : Files} {cwd place : Place} {path : Path}
    (missing : files.isThere cwd path = false)
    (created : files.create cwd path = .ok (place, after)) :
    files.locate cwd path = .ok ⟨place, false⟩ ∧ files.node? place = none := by
  obtain ⟨located, -⟩ := create_eq_ok created
  refine ⟨located, ?_⟩
  simp only [isThere, located] at missing
  generalize files.node? place = node at missing ⊢
  cases node with
  | none => rfl
  | some node =>
    cases node with
    | directory | file | discard => cases missing

theorem isThere_of_read {files : Files} {cwd : Place} {path : Path} {content : Bytes}
    (holds : files.read cwd path = .ok content) : files.isThere cwd path := by
  unfold read at holds
  unfold isThere
  split at holds
  next => cases holds
  next spot located =>
    simp only [located]
    split at holds
    next => cases holds
    next there =>
      split at holds
      next => cases holds
      next file => simp [there, file]
    next there =>
      split at holds
      next => cases holds
      next file => simp [there, file]
    next => cases holds

/-- Whether a file with this capacity takes so many bytes in all. -/
def HasRoom (capacity : Capacity) (size : Nat) : Bool :=
  match capacity with
  | none => true
  | some (room, _) => size ≤ room

theorem hasRoom_iff (capacity : Capacity) (size : Nat) :
    HasRoom capacity size ↔ Sink.limit (sinkOf [] capacity).room size = size := by
  cases capacity with
  | none => simp [HasRoom, sinkOf, Sink.limit]
  | some limit =>
    simp only [HasRoom, sinkOf, Sink.limit, decide_eq_true_eq, List.length_nil]
    omega

/-- What is stored in a new file: a front of the bytes, and all of them if there is room. -/
theorem store_of_empty {files : Files} {place : Place} {capacity : Capacity}
    (empty : files.node? place = some (.file [] capacity)) (bytes : Bytes) :
    ∃ kept rest, kept ++ rest = bytes ∧ ((files.store place bytes).1 = .ok () ↔ rest = []) ∧
      (HasRoom capacity bytes.length ↔ rest = []) ∧
      (files.store place bytes).2.node? place = some (.file kept capacity) := by
  let taken := Sink.limit (sinkOf [] capacity).room bytes.length
  have calls : (sinkOf [] capacity).perCall ≠ some 0 := by cases capacity <;> simp [sinkOf]
  have nothing : (sinkOf [] capacity).taken = [] := by cases capacity <;> rfl
  have within : taken ≤ bytes.length := Sink.limit_le _ _
  have whole : taken = bytes.length ↔ bytes.drop taken = [] := by
    rw [List.drop_eq_nil_iff]
    omega
  refine ⟨bytes.take taken, bytes.drop taken, List.take_append_drop taken bytes, ?_, ?_, ?_⟩
  · rw [← whole]
    simp only [store, empty, Sink.takeAll_eq calls]
    split
    next all => exact iff_of_true rfl all
    next short => exact iff_of_false (fun same => by cases same) short
  · rw [hasRoom_iff, ← whole]
  · simp only [store, empty, Sink.takeAll_eq calls, Sink.accept, nothing, List.nil_append]
    exact node?_set_of_ne_directory (by simp [empty]) _

/-- A file is made where nothing was, and what is written to it is stored in a new file. -/
theorem create_of_free {files : Files} {cwd place : Place} {path : Path}
    (located : files.locate cwd path = .ok ⟨place, false⟩) (free : files.node? place = none) :
    ∃ opened, files.create cwd path = .ok (place, opened) ∧
      opened.node? place = some (.file [] (files.capacityAt place)) :=
  ⟨files.set place (.file [] (files.capacityAt place)),
    by simp only [create, openFile, located, free, Bool.false_eq_true, if_false],
    node?_set_of_ne_directory (by simp [free]) _⟩

end Files

end VectorFetch

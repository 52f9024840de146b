import VectorFetch.Proofs.Files.Edits
import VectorFetch.Proofs.Site

/-!
# Paths that can be written

* `TakesAll`, `Writable`: a place that takes any number of bytes, and a path to such a place or
  to one where a file can be made.
* `Artifact.write_of_writable`: a path that can be written is written.
* `capacityOf`: how many bytes a place takes, which writing does not change.
* `locate_join_of_isDirectory`: where the path of a name in a directory leads.
-/

namespace VectorFetch

namespace Files

/-- A place that takes any number of bytes: a file without limit, or a device. -/
inductive TakesAll (files : Files) (place : Place) : Prop where
  | file {content : Bytes} (there : files.node? place = some (.file content none))
  | device (there : files.node? place = some .discard)

/-- A path on which a file can be written: it leads into a directory, to a place that takes any
number of bytes or to one where a file can be made that does. -/
inductive Writable (files : Files) (cwd : Place) (path : Path) : Prop where
  | new {place : Place} (located : files.locate cwd path = .ok ⟨place, false⟩)
      (free : files.node? place = none) (endless : files.capacityAt place = none)
  | there {place : Place} (located : files.locate cwd path = .ok ⟨place, false⟩)
      (takes : files.TakesAll place)

theorem create_of_writable {files : Files} {cwd : Place} {path : Path}
    (writable : files.Writable cwd path) :
    ∃ place after, files.create cwd path = .ok (place, after) ∧ after.TakesAll place := by
  unfold create openFile
  cases writable with
  | @new place located free endless =>
    simp only [located, free, endless]
    exact ⟨place, _, rfl, .file (node?_set_of_ne_directory (by simp [free]) _)⟩
  | @there place located takes =>
    simp only [located]
    cases takes with
    | @file content there =>
      simp only [there]
      exact ⟨place, _, rfl, .file (node?_set_of_ne_directory (by simp [there]) _)⟩
    | device there =>
      simp only [there]
      exact ⟨place, files, rfl, .device there⟩

theorem store_of_takesAll {files : Files} {place : Place} (takes : files.TakesAll place)
    (bytes : Bytes) :
    (files.store place bytes).1 = .ok () ∧ (files.store place bytes).2.TakesAll place := by
  cases takes with
  | @file content there =>
    have taken : (sinkOf content none).takeAll bytes =
      (.ok (), (sinkOf content none).accept bytes) :=
      Sink.takeAll_of_room rfl (by simp [sinkOf]) bytes
    simp only [store, there, taken]
    exact ⟨trivial, .file (node?_set_of_ne_directory (by simp [there]) _)⟩
  | device there =>
    simp only [store, there]
    exact ⟨trivial, .device there⟩

/-- How many bytes a file takes in all, be it there or made. -/
def capacityOf (files : Files) (place : Place) : Capacity :=
  match files.node? place with
  | none => files.capacityAt place
  | some (.file _ capacity) => capacity
  | some .directory | some .discard => none

theorem Edits.capacityOf_eq {may : Place → Prop} {a b : Files} (edits : a.Edits may b)
    (place : Place) : b.capacityOf place = a.capacityOf place := by
  have rewrite := edits.rewrites place
  have fresh := edits.capacityAt_eq place
  unfold capacityOf
  generalize a.node? place = before at rewrite ⊢
  generalize b.node? place = after at rewrite ⊢
  cases rewrite with
  | same => rw [fresh]
  | new => rfl
  | content => rfl

theorem isDirectory_iff {files : Files} {cwd : Place} {path : Path} :
    files.isDirectory cwd path ↔ ∃ spot, files.locate cwd path = .ok spot ∧
      files.node? spot.place = some .directory := by
  unfold isDirectory
  cases located : files.locate cwd path with
  | error e => simp
  | ok spot => simp

theorem Edits.isDirectory_eq {may : Place → Prop} {a b : Files} (edits : a.Edits may b)
    (cwd : Place) (path : Path) : b.isDirectory cwd path = a.isDirectory cwd path := by
  rw [Bool.eq_iff_iff, isDirectory_iff, isDirectory_iff]
  simp only [edits.locate_iff, (edits.rewrites _).directory_iff]

end Files

open Site

variable {σ : Type}

/-! ## Artifacts -/

theorem Site.storeAll_of_takesAll {site : Site σ} {place : Place}
    (takes : site.files.TakesAll place) (batches : List Bytes) :
    (site.storeAll place batches).1 = .ok () := by
  induction batches generalizing site with
  | nil => rfl
  | cons batch batches ih =>
    obtain ⟨stored, still⟩ := Files.store_of_takesAll takes batch
    simp only [storeAll, store, stored]
    exact ih still

theorem Artifact.write_of_writable {path : Path} {site : Site σ}
    (writable : site.files.Writable site.cwd path) (value : Json.Value) :
    (Artifact.write path value site).1 = .ok () := by
  obtain ⟨place, after, created, takes⟩ := Files.create_of_writable writable
  simp only [Artifact.write, Site.create, created]
  have opened : ({ site with files := after }.record (.create path)).files.TakesAll place := takes
  have stored := Site.storeAll_of_takesAll opened (Buffer.batches (Artifact.pieces value))
  split
  next ended =>
    rw [ended] at stored
    cases stored
  next => rfl

/-! ## Names in a directory -/

namespace Files

theorem walk_of_directory {files : Files} {dir : Place} {name : String} (named : Path.IsName name)
    (small : name.utf8ByteSize ≤ 255) (there : files.node? dir = some .directory) :
    files.walk dir [name] = .ok (dir ++ [name]) := by
  simp only [walk, there, if_neg named.notHere, if_neg named.notAbove, if_neg (Nat.not_lt.2 small)]

/-- A name in a directory leads to a place in it. -/
theorem locate_join_of_isDirectory {files : Files} {cwd : Place} {base : Path} {name : String}
    (named : Path.IsName name) (clean : '\x00' ∉ name.toList) (small : name.utf8ByteSize ≤ 255)
    (directory : files.isDirectory cwd base = true)
    (short : (base.join name).text.utf8ByteSize ≤ 4095) :
    ∃ dir, files.locate cwd (base.join name) = .ok ⟨dir ++ [name], false⟩ := by
  obtain ⟨spot, located, there⟩ := isDirectory_iff.1 directory
  have leads := locate_eq_ok_iff.1 located
  -- Joined to the directory, the name is one more part of its path, and nothing else that decides
  -- where a path leads has changed.
  obtain ⟨parts, middle, text, slash⟩ := Path.join_of_ne named leads.filled
  have absolute := Path.isAbsolute_append base leads.filled (middle ++ name)
  have closed := Path.endsInSlash_append named (base.text ++ middle)
  rw [← String.append_assoc, ← text] at absolute
  rw [← text] at closed
  refine ⟨spot.place, locate_eq_ok_iff.2 {
    clean := ?_
    filled := by simp [text, leads.filled]
    short
    walked := ?_
    wants := closed.symm }⟩
  · rcases slash with rfl | rfl
    · simpa [text] using ⟨leads.clean, clean⟩
    · simpa [text] using ⟨leads.clean, clean⟩
  · rw [parts, absolute, walk_append, leads.walked]
    exact walk_of_directory named small there

end Files

end VectorFetch

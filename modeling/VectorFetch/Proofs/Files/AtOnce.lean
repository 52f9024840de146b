import VectorFetch.Proofs.Artifact
import VectorFetch.Proofs.Site

/-!
# Writing at once

* `Files.store_append`: bytes behind others are stored only if those before them were.
* `Site.storeAll_eq_store`: batch after batch is stored what all of them together would be.
* `Artifact.write_eq_write`: an artifact is written like its document at once.
-/

namespace VectorFetch

namespace Files

theorem setEntry_setEntry (place : Place) (a b : Node) (entries : List (Place × Node)) :
    setEntry place b (setEntry place a entries) = setEntry place b entries := by
  induction entries with
  | nil => simp [setEntry]
  | cons entry rest ih =>
    by_cases here : entry.1 = place
    · simp [setEntry, here]
    · simp [setEntry, here, ih]

theorem set_set (files : Files) (place : Place) (a b : Node) :
    (files.set place a).set place b = files.set place b :=
  congrArg (fun entries => { files with entries }) (setEntry_setEntry place a b files.entries)

theorem setEntry_of_find? {place : Place} {node : Node} {entries : List (Place × Node)}
    (there : ((entries.find? fun entry => entry.1 = place).map Prod.snd) = some node) :
    setEntry place node entries = entries := by
  induction entries with
  | nil => cases there
  | cons entry rest ih =>
    obtain ⟨other, stored⟩ := entry
    by_cases here : other = place
    · subst here
      obtain rfl : stored = node := by simpa using there
      simp [setEntry]
    · simp only [setEntry, if_neg here]
      rw [ih (by simpa [here] using there)]

theorem set_of_node? {files : Files} {place : Place} {node : Node}
    (notDirectory : node ≠ .directory) (there : files.node? place = some node) :
    files.set place node = files := by
  unfold node? at there
  split at there
  next => exact absurd (Option.some.inj there).symm notDirectory
  next => exact congrArg (fun entries => { files with entries }) (setEntry_of_find? there)

/-- A file that has taken bytes is the sink that has taken them. -/
theorem sinkOf_append (content more : Bytes) (capacity : Capacity) :
    sinkOf (content ++ more) capacity = (sinkOf content capacity).accept more := by
  cases capacity with
  | none => rfl
  | some limit => simp [sinkOf, Sink.accept, Nat.sub_add_eq]

theorem store_of_file {files : Files} {place : Place} {content : Bytes}
    {capacity : Capacity}
    (there : files.node? place = some (.file content capacity)) (bytes : Bytes) :
    files.store place bytes = (((sinkOf content capacity).takeAll bytes).1,
      files.set place (.file ((sinkOf content capacity).takeAll bytes).2.taken capacity)) := by
  simp only [store, there]

theorem store_append (files : Files) (place : Place) (a b : Bytes) :
    files.store place (a ++ b) =
      match files.store place a with
      | (.error e, files) => (.error e, files)
      | (.ok (), files) => files.store place b := by
  cases there : files.node? place with
  | none => simp only [store, there]
  | some node =>
    cases node with
    | directory => simp only [store, there]
    | discard => simp only [store, there]
    | file content capacity =>
      have calls : (sinkOf content capacity).perCall ≠ some 0 := by
        cases capacity <;> simp [sinkOf]
      rw [store_of_file there, store_of_file there, Sink.takeAll_append calls]
      rcases stored : (sinkOf content capacity).takeAll a with ⟨e | _, sink⟩
      · rfl
      · -- The sink of the longer file is the one that has taken the first half.
        obtain rfl := Sink.accept_of_takeAll calls stored
        have held : (sinkOf content capacity).taken = content := by cases capacity <;> rfl
        have next : (files.set place (.file (content ++ a) capacity)).node? place =
            some (.file (content ++ a) capacity) :=
          node?_set_of_ne_directory (by simp [there]) _
        have taken : ((sinkOf content capacity).accept a).taken = content ++ a :=
          congrArg (· ++ a) held
        dsimp only
        rw [taken, store_of_file next, set_set, sinkOf_append]

theorem store_nil {files : Files} {place : Place} {held : Bytes}
    (holds : files.Holds place held) : files.store place [] = (.ok (), files) := by
  cases holds with
  | device there => simp only [store, there]
  | @file capacity there =>
    have content : (sinkOf held capacity).taken = held := by cases capacity <;> rfl
    have kept := set_of_node? (by simp) there
    rw [store_of_file there, Sink.takeAll, content, kept]

end Files

open Site

variable {σ : Type}

/-- The same answer, and the same files behind it. -/
theorem Site.storeAll_eq_store (site : Site σ) {place : Place} {held : Bytes}
    (holds : site.files.Holds place held) (batches : List Bytes) :
    (site.storeAll place batches).1 = (site.files.store place batches.flatten).1 ∧
      (site.storeAll place batches).2.files = (site.files.store place batches.flatten).2 := by
  induction batches generalizing site held with
  | nil =>
    rw [List.flatten_nil, Files.store_nil holds]
    exact ⟨rfl, rfl⟩
  | cons batch batches ih =>
    have stored := (Files.store_of_holds holds batch).2
    rw [List.flatten_cons, Files.store_append]
    unfold storeAll store
    rcases result : site.files.store place batch with ⟨e | _, files⟩
    · exact ⟨rfl, rfl⟩
    · rw [result] at stored
      exact ih ({ site with files }.record (.store place batch)) (stored rfl)

theorem Artifact.write_eq_write (path : Path) (value : Json.Value) (site : Site σ) :
    let wrote := site.files.write site.cwd path (Utf8.encode value.pretty)
    (Artifact.write path value site).1 = wrote.1.mapError (.io path) ∧
      (Artifact.write path value site).2.files = wrote.2 := by
  unfold Artifact.write Site.create Files.write
  cases created : site.files.create site.cwd path with
  | error e => exact ⟨rfl, rfl⟩
  | ok made =>
    obtain ⟨place, files⟩ := made
    obtain ⟨-, -, holds⟩ := Files.create_eq_ok created
    -- The batches of the buffer are stored one after the other, which is to store them at once.
    have stored := Site.storeAll_eq_store ({ site with files }.record (.create path)) holds
      (Buffer.batches (pieces value))
    rw [Buffer.flatten_batches, flatten_pieces] at stored
    have opened : ({ site with files }.record (.create path)).files = files := rfl
    rw [opened] at stored
    dsimp only
    rw [← stored.1, ← stored.2]
    generalize Site.storeAll _ place _ = result
    obtain ⟨e | _, after⟩ := result
    · exact ⟨rfl, rfl⟩
    · exact ⟨rfl, rfl⟩

end VectorFetch

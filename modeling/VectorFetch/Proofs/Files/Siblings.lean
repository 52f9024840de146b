import VectorFetch.Proofs.Files.Agreement
import VectorFetch.Proofs.Files.AtOnce

/-!
# Names in one directory

* `Path.exists_target_join`: the names in a directory are places next to each other.
* `locate_join_congr`: if one name in a directory leads somewhere, then all do, and what is written
  there makes no difference.
* `write_agree`, `write_again`: writing depends on the place that is written, and what was written is
  written again in the same way.
-/

namespace VectorFetch

namespace Path

/-- The path of a name in a directory goes through the directory and then to the name. -/
theorem exists_parts_join (base : Path) (cwd : Place) : ∃ front from_, ∀ name, IsName name →
    (base.join name).parts = front ++ [name] ∧ (base.join name).start cwd = from_ := by
  by_cases empty : base.text = ""
  · refine ⟨[], cwd, fun name named => ?_⟩
    have alone : base.join name = ⟨name⟩ := by simp [join, empty]
    have relative : (⟨name⟩ : Path).isAbsolute = false := by
      rw [Bool.eq_false_iff]
      intro slash
      obtain ⟨rest, spelled⟩ := (isAbsolute_iff ⟨name⟩).1 slash
      exact named.slashless (spelled ▸ by simp)
    rw [alone, parts_of_isName named, start, relative]
    exact ⟨rfl, rfl⟩
  · exact ⟨base.parts, base.start cwd, fun name named => parts_start_join cwd named empty⟩

/-- The names in a directory are places next to each other. -/
theorem exists_target_join (base : Path) (cwd : Place) :
    ∃ dir, ∀ name, IsName name → (base.join name).target cwd = dir ++ [name] := by
  obtain ⟨front, from_, spelled⟩ := base.exists_parts_join cwd
  refine ⟨front.foldl Place.after from_, fun name named => ?_⟩
  obtain ⟨parts, start⟩ := spelled name named
  rw [target, parts, start, List.foldl_append]
  exact after_of_isName named _

theorem target_join_injective (base : Path) (cwd : Place) {a b : String} (namedA : IsName a)
    (namedB : IsName b) (same : (base.join a).target cwd = (base.join b).target cwd) : a = b := by
  obtain ⟨dir, target⟩ := base.exists_target_join cwd
  rw [target a namedA, target b namedB] at same
  exact List.singleton_inj.1 (List.append_cancel_left same)

end Path

namespace Files

variable {a b : Files} {cwd place : Place} {path base : Path} {name other : String}

/-- If one name in a directory leads somewhere, then the others do, as far as their texts allow it,
wherever no directory was removed. -/
theorem locate_join_congr {spot : Spot} (namedOther : Path.IsName other)
    (located : a.locate cwd (base.join other) = .ok spot)
    (directories : ∀ place, a.node? place = some .directory → b.node? place = some .directory)
    (named : Path.IsName name) (small : name.utf8ByteSize ≤ 255) :
    b.locate cwd (base.join name) = a.locate cwd (base.join name) := by
  obtain ⟨front, from_, spelled⟩ := base.exists_parts_join cwd
  have walked : a.walk ((base.join other).start cwd) (base.join other).parts = .ok spot.place :=
    (locate_eq_ok_iff.1 located).walked
  rw [(spelled other namedOther).1, (spelled other namedOther).2] at walked
  obtain ⟨dir, before, entered⟩ := walk_concat walked
  -- The directory is there, so any name leads to a place in it.
  have walks : a.walk from_ (front ++ [name]) = .ok (dir ++ [name]) := by
    rw [walk_append, before]
    exact walk_of_directory named small (directory_of_enter entered)
  apply locate_congr
  rw [(spelled name named).1, (spelled name named).2, walks]
  exact walk_of_directories directories walks

/-! ## Writing -/

/-- Writing depends on where the path leads and on what is or can be there, and on nothing else. -/
theorem write_agree (located : a.locate cwd path = b.locate cwd path)
    (agree : AgreeOn (· = path.target cwd) a b) (bytes : Bytes) :
    (a.write cwd path bytes).1 = (b.write cwd path bytes).1 ∧
      (a.write cwd path bytes).2.node? (path.target cwd) =
        (b.write cwd path bytes).2.node? (path.target cwd) := by
  unfold write create
  obtain ⟨e, madeA, madeB⟩ | ⟨a', b', madeA, madeB, agree⟩ :=
    @openFile_agree (· = path.target cwd) a b cwd path false agree located rfl
  · rw [madeA, madeB]
    exact ⟨rfl, agree.nodes _ rfl⟩
  · rw [madeA, madeB]
    obtain ⟨answer, agree⟩ := store_agree agree rfl bytes
    exact ⟨answer, agree.nodes _ rfl⟩

theorem create_of_file {content : Bytes} {capacity : Capacity}
    (located : a.locate cwd path = .ok ⟨place, false⟩)
    (there : a.node? place = some (.file content capacity)) :
    a.create cwd path = .ok (place, a.set place (.file [] capacity)) := by
  simp [create, openFile, located, there]

/-- A file that was opened to be written is opened in the same way once it has been written. -/
theorem create_again {opened : Files} (created : a.create cwd path = .ok (place, opened))
    (located : b.locate cwd path = a.locate cwd path) {bytes : Bytes}
    (same : b.node? place = (opened.store place bytes).2.node? place) :
    ∃ again, b.create cwd path = .ok (place, again) ∧ again.node? place = opened.node? place := by
  obtain ⟨leads, -, empty⟩ := create_eq_ok created
  rw [leads] at located
  cases empty with
  | @file capacity there =>
    have notDirectory : opened.node? place ≠ some .directory := by simp [there]
    rw [store_of_file there, node?_set_of_ne_directory notDirectory] at same
    refine ⟨_, create_of_file located same, ?_⟩
    rw [node?_set_of_ne_directory (by simp [same]), there]
  | device there =>
    simp only [store, there] at same
    refine ⟨b, ?_, by rw [same, there]⟩
    simp [create, openFile, located, same]

/-- What was written is written again with the same outcome. -/
theorem write_again (located : b.locate cwd path = a.locate cwd path)
    (limits : b.limits = a.limits) {bytes : Bytes}
    (same : b.node? (path.target cwd) = (a.write cwd path bytes).2.node? (path.target cwd)) :
    (b.write cwd path bytes).1 = (a.write cwd path bytes).1 ∧
      (b.write cwd path bytes).2.node? (path.target cwd) =
        (a.write cwd path bytes).2.node? (path.target cwd) := by
  cases created : a.create cwd path with
  | error e =>
    have untouched : (a.write cwd path bytes).2 = a := by simp only [write, created]
    rw [untouched] at same
    exact write_agree located (.of_limits limits same) bytes
  | ok made =>
    obtain ⟨place, opened⟩ := made
    obtain rfl : place = path.target cwd := place_of_locate (create_eq_ok created).1
    simp only [write, created] at same ⊢
    obtain ⟨again, createdB, agree⟩ := create_again created located same
    simp only [createdB]
    have opening := openFile_limits created
    have reopening := openFile_limits createdB
    obtain ⟨answer, stored⟩ :=
      store_agree (.of_limits (reopening.trans (limits.trans opening.symm)) agree) rfl bytes
    exact ⟨answer, stored.nodes _ rfl⟩

end Files

end VectorFetch

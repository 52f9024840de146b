import VectorFetch.Proofs.Writable

/-!
# Directories that are made

* `Path.Above`: a path and the paths above it.
* `Adds`, `makeDirectories_adds`: making directories adds directories on the way, where nothing
  was, and changes nothing else.
* `makeDirectories_of_isDirectory`: a directory that is there is not made again.
* `locate_join_eq`, `isDirectory_of_locate_join`: where the path of a name in a directory leads.
-/

namespace VectorFetch

/-! ## Ways -/

/-- A path, or one above it. -/
inductive Path.Above (path : Path) : Path → Prop where
  | self : Above path path
  | parent {above next : Path} (behind : Above path above) (leads : above.parent? = some next) :
      Above path next

theorem Path.Above.of_parent? {path parent above : Path} (leads : path.parent? = some parent)
    (behind : parent.Above above) : path.Above above := by
  induction behind with
  | self => exact .parent .self leads
  | parent _ next ih => exact ih.parent next

namespace Files

variable {cwd : Place} {a b c : Files}

/-- A place to which a path leads, or one above it. -/
def OnWay (files : Files) (cwd : Place) (path : Path) (place : Place) : Prop :=
  ∃ above spot, path.Above above ∧ files.locate cwd above = .ok spot ∧ spot.place = place

/-- Directories were added on the way of a path, where nothing was. All else is the same. -/
structure Adds (cwd : Place) (path : Path) (before after : Files) : Prop where
  nodes : ∀ place, after.node? place = before.node? place ∨
    before.node? place = none ∧ after.node? place = some .directory ∧ after.OnWay cwd path place
  limits : after.limits = before.limits

namespace Adds

variable {path : Path}

theorem refl (cwd : Place) (path : Path) (files : Files) : Adds cwd path files files :=
  ⟨fun _ => .inl rfl, rfl⟩

theorem directory (adds : Adds cwd path a b) {place : Place}
    (there : a.node? place = some .directory) :
    b.node? place = some .directory := by
  rcases adds.nodes place with same | ⟨none, new, -⟩
  · rw [same, there]
  · exact new

theorem locate (adds : Adds cwd path a b) {cwd' : Place} {path' : Path} {spot : Spot}
    (located : a.locate cwd' path' = .ok spot) : b.locate cwd' path' = .ok spot :=
  locate_of_directories (fun _ => adds.directory) located

theorem trans (first : Adds cwd path a b) (second : Adds cwd path b c) : Adds cwd path a c := by
  refine ⟨fun place => ?_, second.limits.trans first.limits⟩
  rcases second.nodes place with same | ⟨none, new, way⟩
  · rcases first.nodes place with unchanged | ⟨none, new, above, spot, behind, located, here⟩
    · exact .inl (same.trans unchanged)
    · exact .inr ⟨none, same.trans new, above, spot, behind, second.locate located, here⟩
  · rcases first.nodes place with unchanged | ⟨-, made, -⟩
    · exact .inr ⟨unchanged ▸ none, new, way⟩
    · rw [none] at made
      cases made

theorem of_parent? {parent : Path} (leads : path.parent? = some parent)
    (adds : Adds cwd parent a b) :
    Adds cwd path a b := by
  refine ⟨fun place => ?_, adds.limits⟩
  rcases adds.nodes place with same | ⟨none, new, above, spot, behind, located, here⟩
  · exact .inl same
  · exact .inr ⟨none, new, above, spot, .of_parent? leads behind, located, here⟩

end Adds

/-! ## Making directories -/

theorem makeDirectory_adds {files after : Files} {path : Path}
    (made : files.makeDirectory cwd path = .ok after) : Adds cwd path files after := by
  unfold makeDirectory at made
  split at made
  next => cases made
  next spot located =>
    split at made
    next => cases made
    next free =>
      cases made
      have missing : files.node? spot.place ≠ some .directory := by simp [free]
      have new := node?_set_of_ne_directory missing .directory
      -- A directory more hides no other one, so that paths still lead to where they led.
      have directories : ∀ place, files.node? place = some .directory →
          (files.set spot.place .directory).node? place = some .directory := by
        intro place there
        by_cases here : place = spot.place
        · rw [here, new]
        · rw [node?_set_of_ne here, there]
      refine ⟨fun place => ?_, rfl⟩
      by_cases here : place = spot.place
      · subst here
        exact .inr ⟨free, new, path, spot, .self, locate_of_directories directories located, rfl⟩
      · exact .inl (node?_set_of_ne here files _)

theorem ensureDirectory_adds {files after : Files} {path : Path}
    (made : files.ensureDirectory cwd path = .ok after) : Adds cwd path files after := by
  unfold ensureDirectory at made
  split at made
  next one =>
    cases made
    exact makeDirectory_adds one
  next =>
    split at made
    next =>
      cases made
      exact .refl cwd path files
    next => cases made

theorem makeDirectoriesFrom_adds (files : Files) (cwd : Place) (fuel : Nat) (path : Path) :
    Adds cwd path files (files.makeDirectoriesFrom cwd fuel path).2 := by
  -- By induction on the fuel. What is made for the parent is above the path as well.
  induction fuel generalizing path with
  | zero => exact .refl cwd path files
  | succ fuel ih =>
    unfold makeDirectoriesFrom
    split
    next => exact .refl cwd path files
    next =>
      split
      next one => exact makeDirectory_adds one
      next =>
        split
        next =>
          split
          next => exact .refl cwd path files
          next parent leads =>
            have above := (ih parent).of_parent? leads
            generalize files.makeDirectoriesFrom cwd fuel parent = result at above ⊢
            obtain ⟨_ | _, between⟩ := result
            · exact above
            · dsimp only at above ⊢
              split
              next last => exact above.trans (ensureDirectory_adds last)
              next => exact above
        next =>
          split
          next => exact .refl cwd path files
          next => exact .refl cwd path files

theorem makeDirectories_adds (files : Files) (cwd : Place) (path : Path) :
    Adds cwd path files (files.makeDirectories cwd path).2 :=
  makeDirectoriesFrom_adds files cwd _ path

/-- A directory that is there is not made again. -/
theorem makeDirectories_of_isDirectory {files : Files} {path : Path}
    (there : files.isDirectory cwd path) :
    files.makeDirectories cwd path = (.ok (), files) := by
  obtain ⟨spot, located, directory⟩ := isDirectory_iff.1 there
  have refused : files.makeDirectory cwd path = .error alreadyThere := by
    simp only [makeDirectory, located, directory]
  have other : alreadyThere ≠ notFound := by decide
  unfold makeDirectories makeDirectoriesFrom
  split
  next => rfl
  next =>
    rw [refused]
    simp only [if_neg other]

/-! ## Names in directories -/

/-- The path of a name in a directory does not ask for a directory itself. -/
theorem locate_join_eq {files : Files} {base : Path} {name : String} {spot : Spot}
    (named : Path.IsName name) (located : files.locate cwd (base.join name) = .ok spot) :
    ∃ dir, spot = ⟨dir ++ [name], false⟩ := by
  obtain ⟨dir, place⟩ := locate_join named located
  have wants := (locate_eq_ok_iff.1 located).wants
  have noSlash : (base.join name).endsInSlash = false := by
    by_cases empty : base.text = ""
    · have alone : base.join name = ⟨"" ++ name⟩ := by simp [Path.join, empty]
      rw [alone, Path.endsInSlash_append named]
    · obtain ⟨-, middle, text, -⟩ := Path.join_of_ne named empty
      rw [show base.join name = ⟨base.text ++ middle ++ name⟩ from congrArg Path.mk text,
        Path.endsInSlash_append named]
  obtain ⟨place', wants'⟩ := spot
  cases place
  rw [noSlash] at wants
  cases wants
  exact ⟨dir, rfl⟩

/-- A path that leads to a name in a directory goes through the directory. -/
theorem isDirectory_of_locate_join {files : Files} {base : Path} {name : String} {spot : Spot}
    (named : Path.IsName name) (notEmpty : base.text ≠ "")
    (located : files.locate cwd (base.join name) = .ok spot) : files.isDirectory cwd base := by
  have leads := locate_eq_ok_iff.1 located
  obtain ⟨parts, middle, text, -⟩ := Path.join_of_ne named notEmpty
  have absolute := Path.isAbsolute_append base notEmpty (middle ++ name)
  rw [← String.append_assoc, ← text] at absolute
  have walked := leads.walked
  rw [parts, absolute] at walked
  -- The last part is the name, and whatever is entered for it was a directory.
  obtain ⟨dir, before, entered⟩ := walk_concat walked
  have clean := leads.clean
  have short := leads.short
  rw [text] at clean short
  simp only [String.toList_append, List.mem_append, not_or] at clean
  simp only [String.utf8ByteSize_append] at short
  refine isDirectory_iff.2 ⟨⟨dir, base.endsInSlash⟩, locate_eq_ok_iff.2 ?_,
    directory_of_enter entered⟩
  exact {
    clean := clean.1.1
    filled := notEmpty
    short := by omega
    walked := before
    wants := rfl }

end Files

end VectorFetch

import VectorFetch.Proofs.Files.Directories
import VectorFetch.Proofs.Files.Parents

/-!
# Making directories part by part

Missing directories are looked for from the end of a path and made from its start. Which of them are
there already does not matter for the outcome.

* `Path.trail`, `Path.target`: the places that a path goes through, whatever is stored there.
* `makeAlong`: makes the missing directories on the trail, from its start on.
* `makeDirectories_eq`: this is what making directories comes to.
* `makeAlong_changes`, `walk_of_makeAlong`: what it changes, and that the path leads to its end.
-/

namespace VectorFetch

/-! ## Trails -/

/-- Where a part of a path leads from a place. -/
def Place.after (place : Place) (part : String) : Place :=
  if part = "." then place else if part = ".." then place.dropLast else place ++ [part]

namespace Path

variable (cwd : Place) (path : Path)

/-- Where a path starts. -/
def start : Place := if path.isAbsolute then [] else cwd

/-- The places that a path goes through, the first and the last among them. -/
def trail : List Place := path.parts.scanl Place.after (path.start cwd)

/-- Where a path goes to. -/
def target : Place := path.parts.foldl Place.after (path.start cwd)

/-- Whether a path can lead anywhere by its text. -/
def isUsable : Bool := !path.text.toList.contains '\x00' && path.text.utf8ByteSize ≤ 4095

variable {path}

theorem foldl_mem_scanl (parts : List String) (place : Place) :
    parts.foldl Place.after place ∈ parts.scanl Place.after place := by
  induction parts generalizing place with
  | nil => exact List.mem_singleton_self place
  | cons part rest ih =>
    rw [List.scanl_cons]
    exact List.mem_cons_of_mem _ (ih _)

theorem target_mem_trail : path.target cwd ∈ path.trail cwd :=
  foldl_mem_scanl path.parts (path.start cwd)

theorem after_of_isName {name : String} (named : IsName name) (place : Place) :
    Place.after place name = place ++ [name] := by
  rw [Place.after, if_neg named.notHere, if_neg named.notAbove]

theorem parts_start_join {base : Path} {name : String} (named : IsName name)
    (filled : base.text ≠ "") : (base.join name).parts = base.parts ++ [name] ∧
      (base.join name).start cwd = base.start cwd := by
  obtain ⟨parts, middle, text, -⟩ := join_of_ne named filled
  have absolute := isAbsolute_append base filled (middle ++ name)
  rw [← String.append_assoc, ← text] at absolute
  refine ⟨parts, ?_⟩
  rw [Path.start, Path.start, show (base.join name).isAbsolute = base.isAbsolute from absolute]

/-- A name in a directory is one place more. -/
theorem trail_join {base : Path} {name : String} (named : IsName name) (filled : base.text ≠ "") :
    (base.join name).trail cwd = base.trail cwd ++ [base.target cwd ++ [name]] ∧
      (base.join name).target cwd = base.target cwd ++ [name] := by
  obtain ⟨parts, start⟩ := parts_start_join cwd named filled
  rw [Path.trail, Path.trail, Path.target, Path.target, parts, start, List.scanl_append,
    List.foldl_append]
  simp [after_of_isName named]

theorem IsParent.start_eq {last : String} {parent : Path} (above : IsParent path last parent) :
    parent.start cwd = path.start cwd := by
  rw [start, start, above.absolute]

theorem IsParent.isUsable {last : String} {parent : Path} (above : IsParent path last parent)
    (usable : path.isUsable) : parent.isUsable := by
  obtain ⟨rest, text, -⟩ := above.text
  simp only [Path.isUsable, text, Bool.and_eq_true, Bool.not_eq_true', decide_eq_true_eq,
    String.toList_append, String.utf8ByteSize_append] at usable ⊢
  refine ⟨?_, by omega⟩
  have clean : '\x00' ∉ parent.text.toList ++ rest.toList := by simpa using usable.1
  simpa using fun member => clean (List.mem_append_left _ member)

theorem IsParent.length_lt {last : String} {parent : Path} (above : IsParent path last parent) :
    parent.text.length < path.text.length := by
  obtain ⟨rest, text, filled⟩ := above.text
  have more : 0 < rest.length := by
    rw [← String.length_toList, List.length_pos_iff]
    simpa using filled
  rw [text, String.length_append]
  omega

end Path

namespace Files

variable {files after : Files} {cwd place target : Place} {part : String}
  {parts rest : List String} {path : Path}

theorem locate_of_isUsable (usable : path.isUsable) (filled : path.text ≠ "") :
    files.locate cwd path =
      (files.walk (path.start cwd) path.parts).map fun place => ⟨place, path.endsInSlash⟩ := by
  simp only [Path.isUsable, Bool.and_eq_true, Bool.not_eq_true', decide_eq_true_eq] at usable
  have present : path.text.isEmpty = false := by simpa using filled
  unfold locate Path.start
  rw [usable.1, present, if_neg Bool.false_ne_true, if_neg Bool.false_ne_true,
    if_neg (Nat.not_lt.2 usable.2)]
  cases files.walk (if path.isAbsolute then [] else cwd) path.parts with
  | error e => rfl
  | ok place => rfl

theorem locate_of_not_isUsable (cwd : Place) (unusable : ¬path.isUsable) (filled : path.text ≠ "") :
    ∃ e ≠ notFound, ∀ files : Files, files.locate cwd path = .error e := by
  have present : path.text.isEmpty = false := by simpa using filled
  by_cases clean : path.text.toList.contains '\x00'
  · exact ⟨.nulInName, by decide, fun files => by rw [locate, if_pos clean]⟩
  · have long : 4095 < path.text.utf8ByteSize := by
      simp only [Path.isUsable, Bool.and_eq_true, Bool.not_eq_true', decide_eq_true_eq] at unusable
      exact Nat.lt_of_not_le fun short => unusable ⟨by simpa using clean, short⟩
    refine ⟨nameTooLong, by decide, fun files => ?_⟩
    rw [locate, if_neg clean, present, if_neg Bool.false_ne_true, if_pos long]

theorem enter_of_directory (there : files.node? place = some .directory) (part : String) :
    files.enter place part =
      if 255 < part.utf8ByteSize then .error nameTooLong else .ok (Place.after place part) := by
  simp only [enter, there, Place.after]
  by_cases dot : part = "."
  · subst dot
    rfl
  · by_cases dots : part = ".."
    · subst dots
      rfl
    · rw [if_neg dot, if_neg dots, if_neg dot, if_neg dots]

/-! ## Part by part -/

/-- Makes a directory where nothing is. -/
def madeDirectory? (files : Files) (place : Place) : Option Files :=
  match files.node? place with
  | none => some (files.set place .directory)
  | some .directory => some files
  | some _ => none

/-- Makes the missing directories on a trail, as far as that is possible. -/
def makeAlong (files : Files) (place : Place) : List String → Bool × Files
  | [] => (true, files)
  | part :: rest =>
    if 255 < part.utf8ByteSize then (false, files)
    else
      match files.madeDirectory? (Place.after place part) with
      | none => (false, files)
      | some files => files.makeAlong (Place.after place part) rest

theorem madeDirectory?_of_directory (there : files.node? place = some .directory) :
    files.madeDirectory? place = some files := by
  simp only [madeDirectory?, there]

theorem madeDirectory?_eq_some (made : files.madeDirectory? place = some after) :
    after.node? place = some .directory ∧ ∀ other, after.node? other = files.node? other ∨
      other = place ∧ files.node? other = none ∧ after.node? other = some .directory := by
  unfold madeDirectory? at made
  split at made
  next free =>
    cases made
    have missing : files.node? place ≠ some .directory := by simp [free]
    have new := node?_set_of_ne_directory missing .directory
    refine ⟨new, fun other => ?_⟩
    by_cases here : other = place
    · subst here
      exact .inr ⟨rfl, free, new⟩
    · exact .inl (node?_set_of_ne here files _)
  next there =>
    cases made
    exact ⟨there, fun _ => .inl rfl⟩
  next => cases made

theorem limits_of_madeDirectory? (made : files.madeDirectory? place = some after) :
    after.limits = files.limits := by
  unfold madeDirectory? at made
  split at made
  next =>
    cases made
    rfl
  next =>
    cases made
    rfl
  next => cases made

/-- Nothing is changed but places on the way where nothing was. -/
theorem makeAlong_changes (files : Files) (place : Place) (parts : List String) (other : Place) :
    (files.makeAlong place parts).2.node? other = files.node? other ∨
      files.node? other = none ∧ (files.makeAlong place parts).2.node? other = some .directory ∧
        other ∈ parts.scanl Place.after place := by
  -- By induction on the parts. What is new behind the first one stays as it is.
  induction parts generalizing files place with
  | nil => exact .inl rfl
  | cons part rest ih =>
    rw [List.scanl_cons, makeAlong]
    split
    next => exact .inl rfl
    next =>
      split
      next => exact .inl rfl
      next between made =>
        have first := (madeDirectory?_eq_some made).2 other
        rcases ih between (Place.after place part) with same | ⟨free, new, later⟩
        · rcases first with unchanged | ⟨rfl, free, new⟩
          · exact .inl (same.trans unchanged)
          · refine .inr ⟨free, same.trans new, List.mem_cons_of_mem _ ?_⟩
            cases rest <;> simp
        · rcases first with unchanged | ⟨-, -, made⟩
          · exact .inr ⟨unchanged ▸ free, new, List.mem_cons_of_mem _ later⟩
          · rw [free] at made
            cases made

theorem makeAlong_directory (there : files.node? place = some .directory) (from_ : Place)
    (parts : List String) : (files.makeAlong from_ parts).2.node? place = some .directory := by
  rcases makeAlong_changes files from_ parts place with same | ⟨free, -⟩
  · rw [same, there]
  · rw [there] at free
    cases free

theorem makeAlong_append (files : Files) (place : Place) (front rest : List String) :
    files.makeAlong place (front ++ rest) =
      if (files.makeAlong place front).1 then
        (files.makeAlong place front).2.makeAlong (front.foldl Place.after place) rest
      else files.makeAlong place front := by
  induction front generalizing files place with
  | nil => simp [makeAlong]
  | cons part front ih =>
    rw [List.cons_append, makeAlong, makeAlong]
    by_cases long : 255 < part.utf8ByteSize
    · simp [long]
    · rw [if_neg long, if_neg long]
      cases files.madeDirectory? (Place.after place part) with
      | none => simp
      | some between => exact ih between (Place.after place part)

/-- Behind it the path leads to its end, which is a directory. -/
theorem walk_of_makeAlong (there : files.node? place = some .directory)
    (made : files.makeAlong place parts = (true, after)) :
    after.walk place parts = .ok (parts.foldl Place.after place) ∧
      after.node? (parts.foldl Place.after place) = some .directory := by
  induction parts generalizing files place with
  | nil =>
    cases made
    exact ⟨rfl, there⟩
  | cons part rest ih =>
    have still := makeAlong_directory there place (part :: rest)
    rw [made] at still
    rw [makeAlong] at made
    split at made
    next => cases made
    next short =>
      split at made
      next => cases made
      next between entered =>
        -- The walk starts in the files at the end, where the first directory is still there.
        obtain ⟨walked, last⟩ := ih (madeDirectory?_eq_some entered).1 made
        refine ⟨?_, last⟩
        rw [walk_cons, enter_of_directory still, if_neg short]
        exact walked

/-- A path that leads somewhere lacks no directory but the last one. -/
theorem makeAlong_of_walk (there : files.node? place = some .directory)
    (walked : files.walk place parts = .ok target) :
    files.makeAlong place parts =
      match files.madeDirectory? target with
      | none => (false, files)
      | some after => (true, after) := by
  induction parts generalizing place with
  | nil =>
    cases walked
    rw [madeDirectory?_of_directory there, makeAlong]
  | cons part rest ih =>
    rw [walk_cons, enter_of_directory there] at walked
    by_cases long : 255 < part.utf8ByteSize
    · rw [if_pos long] at walked
      cases walked
    · rw [if_neg long] at walked
      rw [makeAlong, if_neg long]
      cases rest with
      | nil =>
        cases walked
        cases files.madeDirectory? (Place.after place part) <;> rfl
      | cons next rest =>
        -- A walk that goes on behind a part has found a directory there.
        have directory : files.node? (Place.after place part) = some .directory := by
          change files.walk (Place.after place part) (next :: rest) = .ok target at walked
          rw [walk_cons] at walked
          cases entered : files.enter (Place.after place part) next with
          | error e =>
            rw [entered] at walked
            cases walked
          | ok _ => exact directory_of_enter entered
        rw [madeDirectory?_of_directory directory]
        exact ih directory walked

/-- Where a path fails for another reason than that something is missing, nothing can be made. -/
theorem makeAlong_of_walk_eq_error {e : IoError} (there : files.node? place = some .directory)
    (failed : files.walk place parts = .error e) (other : e ≠ notFound) :
    files.makeAlong place parts = (false, files) := by
  induction parts generalizing place with
  | nil => cases failed
  | cons part rest ih =>
    rw [walk_cons, enter_of_directory there] at failed
    rw [makeAlong]
    by_cases long : 255 < part.utf8ByteSize
    · rw [if_pos long]
    · rw [if_neg long] at failed ⊢
      change files.walk (Place.after place part) rest = .error e at failed
      cases rest with
      | nil => cases failed
      | cons next rest =>
        -- A part that is missing would have made the walk fail in the way that `other` excludes.
        cases node : files.node? (Place.after place part) with
        | none =>
          rw [walk_cons, enter, node] at failed
          cases failed
          exact absurd rfl other
        | some node' =>
          cases node' with
          | directory =>
            rw [madeDirectory?_of_directory node]
            exact ih node failed
          | file | discard => simp only [madeDirectory?, node]

/-! ## All at once -/

/-- Making the last directory of a path that lacks no other one. -/
theorem ensureDirectory_eq (usable : path.isUsable) (filled : path.text ≠ "")
    (there : files.node? (path.start cwd) = some .directory)
    (found : files.walk (path.start cwd) path.parts ≠ .error notFound) :
    files.makeAlong (path.start cwd) path.parts =
      match files.ensureDirectory cwd path with
      | .ok after => (true, after)
      | .error _ => (false, files) := by
  cases walked : files.walk (path.start cwd) path.parts with
  | error e =>
    have other : e ≠ notFound := fun same => found (by rw [walked, same])
    -- Either way the answer is that of the walk, because the path as a text has no fault.
    have located : files.locate cwd path = .error e := by
      rw [locate_of_isUsable usable filled, walked]
      rfl
    rw [makeAlong_of_walk_eq_error there walked other]
    simp [ensureDirectory, makeDirectory, isDirectory, located]
  | ok target =>
    have located : files.locate cwd path = .ok ⟨target, path.endsInSlash⟩ := by
      rw [locate_of_isUsable usable filled, walked]
      rfl
    rw [makeAlong_of_walk there walked]
    cases node : files.node? target with
    | none => simp [ensureDirectory, makeDirectory, madeDirectory?, located, node]
    | some node' =>
      cases node' with
      | directory | file | discard =>
        simp [ensureDirectory, makeDirectory, madeDirectory?, isDirectory, located, node]

theorem makeDirectoriesFrom_of_found {fuel : Nat} (filled : path.text ≠ "")
    (found : files.makeDirectory cwd path ≠ .error notFound) :
    files.makeDirectoriesFrom cwd (fuel + 1) path =
      match files.ensureDirectory cwd path with
      | .ok after => (.ok (), after)
      | .error e => (.error e, files) := by
  have present : path.text.isEmpty = false := by simpa using filled
  rw [makeDirectoriesFrom, present, if_neg Bool.false_ne_true, ensureDirectory]
  cases made : files.makeDirectory cwd path with
  | ok after => rfl
  | error e =>
    have other : e ≠ notFound := fun same => found (by rw [made, same])
    simp only [if_neg other]
    split
    next => rfl
    next => rfl

/-- Something is missing only where the path of it is walked. -/
theorem makeDirectory_eq_notFound_iff (usable : path.isUsable) (filled : path.text ≠ "") :
    files.makeDirectory cwd path = .error notFound ↔
      files.walk (path.start cwd) path.parts = .error notFound := by
  have different : alreadyThere ≠ notFound := by decide
  rw [makeDirectory, locate_of_isUsable usable filled]
  cases files.walk (path.start cwd) path.parts with
  | error e => simp [Except.map]
  | ok target =>
    cases node : files.node? target with
    | none => simp [Except.map, node]
    | some node' => simp [Except.map, node, different]

theorem makeAlong_dots {dots : List String} (there : files.node? place = some .directory)
    (single : ∀ dot ∈ dots, dot = ".") :
    files.makeAlong place dots = (true, files) ∧ dots.foldl Place.after place = place := by
  induction dots with
  | nil => exact ⟨rfl, rfl⟩
  | cons dot dots ih =>
    obtain ⟨rfl, rest⟩ := List.forall_mem_cons.1 single
    have stays : Place.after place "." = place := if_pos rfl
    have short : ¬255 < ".".utf8ByteSize := by decide
    rw [makeAlong, if_neg short, stays, madeDirectory?_of_directory there, List.foldl_cons, stays]
    exact ih rest

/-- Behind the directories above it, a path lacks no other one. -/
theorem ensureDirectory_of_isParent {parent : Path} {last : String} {between : Files}
    (above : path.IsParent last parent) (usable : path.isUsable) (filled : path.text ≠ "")
    (there : files.node? (path.start cwd) = some .directory)
    (made : files.makeAlong (path.start cwd) parent.parts = (true, between)) :
    files.makeAlong (path.start cwd) path.parts =
      match between.ensureDirectory cwd path with
      | .ok after => (true, after)
      | .error _ => (false, between) := by
  obtain ⟨dots, parts, single⟩ := above.parts
  have still := makeAlong_directory there (path.start cwd) parent.parts
  obtain ⟨walked, directory⟩ := walk_of_makeAlong there made
  obtain ⟨quiet, stays⟩ := makeAlong_dots directory single
  rw [made] at still
  -- From here on nothing but the last part counts, whichever files the trail starts in.
  have whole : files.makeAlong (path.start cwd) path.parts =
      between.makeAlong (parent.parts.foldl Place.after (path.start cwd)) [last] := by
    rw [parts, makeAlong_append, makeAlong_append, made]
    simp [quiet, stays]
  have again : between.makeAlong (path.start cwd) (parent.parts ++ dots) = (true, between) := by
    rw [makeAlong_append, makeAlong_of_walk still walked, madeDirectory?_of_directory directory]
    simpa using quiet
  have same : between.makeAlong (path.start cwd) path.parts =
      between.makeAlong (parent.parts.foldl Place.after (path.start cwd)) [last] := by
    rw [parts, makeAlong_append, again]
    simp [stays]
  have found : between.walk (path.start cwd) path.parts ≠ .error notFound := by
    obtain ⟨reached, there⟩ := walk_of_makeAlong still again
    rw [parts, walk_append, reached]
    change between.walk _ [last] ≠ _
    rw [walk_cons, enter_of_directory there]
    split
    next => exact fun same => absurd (Except.error.inj same) (by decide)
    next => exact nofun
  rw [whole, ← same, ensureDirectory_eq usable filled still found]

theorem makeDirectoriesFrom_eq (files : Files) {fuel : Nat} (trimmed : path.Trimmed)
    (usable : path.isUsable) (enough : path.text.length < fuel)
    (there : files.node? (path.start cwd) = some .directory) :
    ((files.makeDirectoriesFrom cwd fuel path).1.isOk,
      (files.makeDirectoriesFrom cwd fuel path).2) =
        files.makeAlong (path.start cwd) path.parts := by
  -- By induction on the steps up. Behind those above it, a path lacks one directory at most.
  induction fuel generalizing path with
  | zero => omega
  | succ fuel ih =>
    by_cases empty : path.text = ""
    · obtain ⟨text⟩ := path
      subst empty
      rfl
    by_cases missing : files.walk (path.start cwd) path.parts = .error notFound
    · obtain ⟨front, last, split, filled, notHere⟩ : ∃ front last,
          path.pieces = front ++ [last] ∧ last ≠ "" ∧ last ≠ "." := by
        cases trimmed with
        | named split filled notHere => exact ⟨_, _, split, filled, notHere⟩
        | empty text => exact absurd text empty
        | root text =>
          rw [Path.parts_of_root text] at missing
          cases missing
        | here text =>
          rw [Path.parts_of_here text, walk_cons, enter_of_directory there] at missing
          cases missing
      obtain ⟨parent, leads, above⟩ := Path.parent?_of_pieces split filled notHere
      have lower := ih above.trimmed (above.isUsable usable)
        (by have := above.length_lt; omega) (above.start_eq cwd ▸ there)
      rw [above.start_eq] at lower
      have present : path.text.isEmpty = false := by simpa using empty
      rw [makeDirectoriesFrom, present, if_neg Bool.false_ne_true,
        (makeDirectory_eq_notFound_iff usable empty).2 missing]
      simp only [if_true, leads]
      generalize files.makeDirectoriesFrom cwd fuel parent = result at lower ⊢
      obtain ⟨e | _, between⟩ := result
      · obtain ⟨dots, parts, -⟩ := above.parts
        have stopped : files.makeAlong (path.start cwd) parent.parts = (false, between) := lower.symm
        rw [parts, makeAlong_append, makeAlong_append, stopped]
        rfl
      · rw [ensureDirectory_of_isParent above usable empty there lower.symm]
        dsimp only
        cases between.ensureDirectory cwd path <;> rfl
    · have found : files.makeDirectory cwd path ≠ .error notFound := fun none =>
        missing ((makeDirectory_eq_notFound_iff usable empty).1 none)
      rw [makeDirectoriesFrom_of_found empty found, ensureDirectory_eq usable empty there missing]
      cases files.ensureDirectory cwd path <;> rfl

/-- The missing directories are made as if from the start of the path on. -/
theorem makeDirectories_eq (files : Files) (trimmed : path.Trimmed) (usable : path.isUsable)
    (there : files.node? (path.start cwd) = some .directory) :
    ((files.makeDirectories cwd path).1.isOk, (files.makeDirectories cwd path).2) =
      files.makeAlong (path.start cwd) path.parts :=
  makeDirectoriesFrom_eq files trimmed usable (Nat.lt_succ_self _) there

/-- A path that can lead nowhere by its text is refused, whatever is stored. -/
theorem makeDirectories_of_not_isUsable (files : Files) (cwd : Place) (unusable : ¬path.isUsable) :
    ∃ e, files.makeDirectories cwd path = (.error e, files) := by
  have filled : path.text ≠ "" := by
    intro empty
    obtain ⟨text⟩ := path
    subst empty
    exact unusable (by decide)
  obtain ⟨e, other, nowhere⟩ := locate_of_not_isUsable cwd unusable filled
  have present : path.text.isEmpty = false := by simpa using filled
  refine ⟨e, ?_⟩
  rw [makeDirectories, makeDirectoriesFrom, present, if_neg Bool.false_ne_true]
  simp only [makeDirectory, isDirectory, nowhere, if_neg other, if_neg Bool.false_ne_true]

theorem node?_start (there : files.node? cwd = some .directory) (path : Path) :
    files.node? (path.start cwd) = some .directory := by
  unfold Path.start
  split
  next => exact node?_root files
  next => exact there

/-- What making directories changes: places on the trail where nothing was. -/
theorem makeDirectories_changes (trimmed : path.Trimmed)
    (there : files.node? cwd = some .directory) (other : Place) :
    (files.makeDirectories cwd path).2.node? other = files.node? other ∨
      files.node? other = none ∧
        (files.makeDirectories cwd path).2.node? other = some .directory ∧
          other ∈ path.trail cwd := by
  by_cases usable : path.isUsable
  · have changes := makeAlong_changes files (path.start cwd) path.parts other
    rwa [← makeDirectories_eq files trimmed usable (node?_start there path)] at changes
  · obtain ⟨e, refused⟩ := makeDirectories_of_not_isUsable files cwd usable
    rw [refused]
    exact .inl rfl

end Files

end VectorFetch

import VectorFetch.Proofs.Files.Trails

/-!
# Files that agree

Calls that look at the same places do the same, whatever is stored elsewhere.

* `AgreeOn`: the same is stored at some places, or can be.
* `Near`: the same, or a directory that is missing on one side.
* `walk_congr`, `openFile_agree`, `store_agree`: following a path, and writing.
* `makeDirectories_near`: directories that are missing on one side alone make no difference.
* `walk_join`: behind directories that were made, a name in them leads to the same place.
-/

namespace VectorFetch.Files

variable {watched : Place → Prop} {a b : Files} {cwd place : Place} {path : Path}

/-! ## Following paths -/

theorem target_of_walk {files : Files} {parts : List String} {target : Place}
    (walked : files.walk place parts = .ok target) : target = parts.foldl Place.after place := by
  induction parts generalizing place with
  | nil => exact (Except.ok.inj walked).symm
  | cons part rest ih =>
    rw [walk_cons] at walked
    cases entered : files.enter place part with
    | error e =>
      rw [entered] at walked
      cases walked
    | ok next =>
      rw [entered] at walked
      have there := directory_of_enter entered
      rw [enter_of_directory there] at entered
      split at entered
      next => cases entered
      next =>
        cases entered
        exact ih walked

theorem place_of_locate {files : Files} {spot : Spot} (located : files.locate cwd path = .ok spot) :
    spot.place = path.target cwd :=
  target_of_walk (locate_eq_ok_iff.1 located).walked

theorem walk_congr {parts : List String}
    (same : ∀ other ∈ parts.scanl Place.after place, a.node? other = b.node? other) :
    a.walk place parts = b.walk place parts := by
  induction parts generalizing place with
  | nil => rfl
  | cons part rest ih =>
    rw [List.scanl_cons] at same
    obtain ⟨here, later⟩ := List.forall_mem_cons.1 same
    have entered : a.enter place part = b.enter place part := by
      unfold enter
      rw [here]
    rw [walk_cons, walk_cons, entered]
    cases next : b.enter place part with
    | error e => rfl
    | ok reached =>
      have walked : b.walk place [part] = .ok reached := by rw [walk_cons, next]; rfl
      obtain rfl : reached = Place.after place part := target_of_walk walked
      exact ih later

theorem locate_congr (same : a.walk (path.start cwd) path.parts = b.walk (path.start cwd) path.parts) :
    a.locate cwd path = b.locate cwd path := by
  unfold Path.start at same
  unfold locate
  rw [same]

/-! ## The same at some places -/

/-- The same is stored at the places that are watched, and a file that is made there takes as
much. -/
structure AgreeOn (watched : Place → Prop) (a b : Files) : Prop where
  nodes : ∀ place, watched place → a.node? place = b.node? place
  capacities : ∀ place, watched place → a.capacityAt place = b.capacityAt place

theorem AgreeOn.set (agree : AgreeOn watched a b) (place : Place) (node : Node) :
    AgreeOn watched (a.set place node) (b.set place node) := by
  refine ⟨fun other watches => ?_, agree.capacities⟩
  by_cases here : other = place
  · subst here
    by_cases root : other = []
    · subst root
      rfl
    · rw [node?_set_self root, node?_set_self root]
  · rw [node?_set_of_ne here, node?_set_of_ne here, agree.nodes other watches]

/-- At one place files with the same limits agree if the same is stored there. -/
theorem AgreeOn.of_limits (limits : a.limits = b.limits) (same : a.node? place = b.node? place) :
    AgreeOn (· = place) a b where
  nodes _ here := here ▸ same
  capacities other _ := by rw [capacityAt, limits, capacityAt]

theorem openFile_agree {keep : Bool} (agree : AgreeOn watched a b)
    (located : a.locate cwd path = b.locate cwd path) (watches : watched (path.target cwd)) :
    (∃ e, openFile keep a cwd path = .error e ∧ openFile keep b cwd path = .error e) ∨
      ∃ a' b', openFile keep a cwd path = .ok (path.target cwd, a') ∧
        openFile keep b cwd path = .ok (path.target cwd, b') ∧ AgreeOn watched a' b' := by
  unfold openFile
  rw [located]
  cases leads : b.locate cwd path with
  | error e => exact .inl ⟨e, rfl, rfl⟩
  | ok spot =>
    have place := place_of_locate leads
    obtain ⟨target, wants⟩ := spot
    obtain rfl : target = path.target cwd := place
    dsimp only
    rw [agree.nodes _ watches, agree.capacities _ watches]
    -- What is done depends on the one node at the target, which is the same in both.
    cases b.node? (path.target cwd) with
    | none =>
      cases wants with
      | true => exact .inl ⟨_, rfl, rfl⟩
      | false => exact .inr ⟨_, _, rfl, rfl, agree.set _ _⟩
    | some node =>
      cases node with
      | directory => exact .inl ⟨_, rfl, rfl⟩
      | discard =>
        cases wants with
        | true => exact .inl ⟨_, rfl, rfl⟩
        | false => exact .inr ⟨_, _, rfl, rfl, agree⟩
      | file content capacity =>
        cases wants with
        | true => exact .inl ⟨_, rfl, rfl⟩
        | false =>
          cases keep with
          | true => exact .inr ⟨_, _, rfl, rfl, agree⟩
          | false => exact .inr ⟨_, _, rfl, rfl, agree.set _ _⟩

theorem store_agree (agree : AgreeOn watched a b) (watches : watched place) (bytes : Bytes) :
    (a.store place bytes).1 = (b.store place bytes).1 ∧
      AgreeOn watched (a.store place bytes).2 (b.store place bytes).2 := by
  unfold store
  rw [agree.nodes place watches]
  cases b.node? place with
  | none => exact ⟨rfl, agree⟩
  | some node =>
    cases node with
    | directory | discard => exact ⟨rfl, agree⟩
    | file content capacity => exact ⟨rfl, agree.set _ _⟩

theorem isThere_agree (agree : AgreeOn watched a b)
    (located : a.locate cwd path = b.locate cwd path) (watches : watched (path.target cwd)) :
    a.isThere cwd path = b.isThere cwd path := by
  unfold isThere
  rw [located]
  cases leads : b.locate cwd path with
  | error e => rfl
  | ok spot =>
    dsimp only
    rw [agree.nodes _ (place_of_locate leads ▸ watches)]

theorem read_agree (agree : AgreeOn watched a b)
    (located : a.locate cwd path = b.locate cwd path) (watches : watched (path.target cwd)) :
    a.read cwd path = b.read cwd path := by
  unfold read
  rw [located]
  cases leads : b.locate cwd path with
  | error e => rfl
  | ok spot =>
    dsimp only
    rw [agree.nodes _ (place_of_locate leads ▸ watches)]

/-! ## Directories that one side lacks -/

/-- What two sides have at a place: the same, or a directory that one of them lacks. -/
inductive Near : Option Node → Option Node → Prop where
  | same (node : Option Node) : Near node node
  | left : Near (some .directory) none
  | right : Near none (some .directory)

theorem Near.of_made {node left right : Option Node}
    (madeLeft : left = node ∨ node = none ∧ left = some .directory)
    (madeRight : right = node ∨ node = none ∧ right = some .directory) : Near left right := by
  rcases madeLeft with rfl | ⟨rfl, rfl⟩
  · rcases madeRight with rfl | ⟨rfl, rfl⟩
    · exact .same _
    · exact .right
  · rcases madeRight with rfl | ⟨-, rfl⟩
    · exact .left
    · exact .same _

/-- Nothing changes on either side of a place, or a directory is there on both sides. -/
structure Joined (a b a' b' : Files) : Prop where
  nodes : ∀ place, a'.node? place = a.node? place ∧ b'.node? place = b.node? place ∨
    a'.node? place = some .directory ∧ b'.node? place = some .directory
  left : a'.limits = a.limits
  right : b'.limits = b.limits

namespace Joined

variable {a' b' : Files}

theorem refl (a b : Files) : Joined a b a b := ⟨fun _ => .inl ⟨rfl, rfl⟩, rfl, rfl⟩

theorem agree (joined : Joined a b a' b') (agree : AgreeOn watched a b) :
    AgreeOn watched a' b' where
  nodes place watches := by
    rcases joined.nodes place with ⟨left, right⟩ | ⟨left, right⟩
    · rw [left, right, agree.nodes place watches]
    · rw [left, right]
  capacities place watches := by
    have same := agree.capacities place watches
    unfold capacityAt at same ⊢
    rw [joined.left, joined.right, same]

theorem near (joined : Joined a b a' b') {place : Place}
    (near : Near (a.node? place) (b.node? place)) : Near (a'.node? place) (b'.node? place) := by
  rcases joined.nodes place with ⟨left, right⟩ | ⟨left, right⟩
  · rwa [left, right]
  · rw [left, right]
    exact .same _

theorem trans {a'' b'' : Files} (first : Joined a b a' b') (second : Joined a' b' a'' b'') :
    Joined a b a'' b'' := by
  refine ⟨fun place => ?_, second.left.trans first.left, second.right.trans first.right⟩
  rcases second.nodes place with ⟨left, right⟩ | made
  · rw [left, right]
    exact first.nodes place
  · exact .inr made

end Joined

theorem isSome_madeDirectory? (files : Files) (place : Place) :
    (files.madeDirectory? place).isSome =
      match files.node? place with
      | none | some .directory => true
      | some _ => false := by
  unfold madeDirectory?
  cases files.node? place with
  | none => rfl
  | some node => cases node <;> rfl

theorem madeDirectory?_near (near : Near (a.node? place) (b.node? place)) :
    (a.madeDirectory? place = none ∧ b.madeDirectory? place = none) ∨
      ∃ a' b', a.madeDirectory? place = some a' ∧ b.madeDirectory? place = some b' ∧
        Joined a b a' b' := by
  have same : (a.madeDirectory? place).isSome = (b.madeDirectory? place).isSome := by
    rw [isSome_madeDirectory?, isSome_madeDirectory?]
    generalize a.node? place = x at near ⊢
    generalize b.node? place = y at near ⊢
    cases near <;> rfl
  cases madeA : a.madeDirectory? place with
  | none =>
    rw [madeA] at same
    exact .inl ⟨rfl, by simpa using same.symm⟩
  | some a' =>
    rw [madeA] at same
    obtain ⟨b', madeB⟩ := Option.isSome_iff_exists.1 same.symm
    refine .inr ⟨a', b', rfl, madeB, fun other => ?_, limits_of_madeDirectory? madeA,
      limits_of_madeDirectory? madeB⟩
    obtain ⟨hereA, othersA⟩ := madeDirectory?_eq_some madeA
    obtain ⟨hereB, othersB⟩ := madeDirectory?_eq_some madeB
    -- Only the place itself has been changed, and it is a directory in both.
    by_cases here : other = place
    · subst here
      exact .inr ⟨hereA, hereB⟩
    · exact .inl ⟨(othersA other).resolve_right fun made => here made.1,
        (othersB other).resolve_right fun made => here made.1⟩

theorem makeAlong_near {parts : List String}
    (near : ∀ other ∈ parts.scanl Place.after place, Near (a.node? other) (b.node? other)) :
    (a.makeAlong place parts).1 = (b.makeAlong place parts).1 ∧
      Joined a b (a.makeAlong place parts).2 (b.makeAlong place parts).2 := by
  -- By induction on the parts, behind the first of which the files are near once more.
  induction parts generalizing a b place with
  | nil => exact ⟨rfl, .refl a b⟩
  | cons part rest ih =>
    rw [List.scanl_cons] at near
    obtain ⟨-, later⟩ := List.forall_mem_cons.1 near
    have next := later (Place.after place part) (by cases rest <;> simp)
    rw [makeAlong, makeAlong]
    split
    next => exact ⟨rfl, .refl a b⟩
    next =>
      rcases madeDirectory?_near next with ⟨madeA, madeB⟩ | ⟨a', b', madeA, madeB, joined⟩
      · rw [madeA, madeB]
        exact ⟨rfl, .refl a b⟩
      · rw [madeA, madeB]
        obtain ⟨same, behind⟩ := ih fun other member => joined.near (later other member)
        exact ⟨same, joined.trans behind⟩

/-- Directories that are missing on one side are made, and the path leads to the same on both. -/
theorem makeDirectories_near (trimmed : path.Trimmed) (thereA : a.node? cwd = some .directory)
    (thereB : b.node? cwd = some .directory)
    (near : ∀ other ∈ path.trail cwd, Near (a.node? other) (b.node? other)) :
    (a.makeDirectories cwd path).1.isOk = (b.makeDirectories cwd path).1.isOk ∧
      Joined a b (a.makeDirectories cwd path).2 (b.makeDirectories cwd path).2 := by
  by_cases usable : path.isUsable
  · have made := makeAlong_near near
    rwa [← makeDirectories_eq a trimmed usable (node?_start thereA path),
      ← makeDirectories_eq b trimmed usable (node?_start thereB path)] at made
  · obtain ⟨e, refusedA⟩ := makeDirectories_of_not_isUsable a cwd usable
    obtain ⟨e', refusedB⟩ := makeDirectories_of_not_isUsable b cwd usable
    rw [refusedA, refusedB]
    exact ⟨rfl, .refl a b⟩

/-- Behind directories that were made, a name in them leads to the same place whatever else is
stored. -/
theorem walk_join {files after : Files} {base : Path} {name : String} (trimmed : base.Trimmed)
    (named : Path.IsName name) (filled : base.text ≠ "")
    (there : files.node? cwd = some .directory)
    (made : files.makeDirectories cwd base = (.ok (), after)) :
    after.walk ((base.join name).start cwd) (base.join name).parts =
      if 255 < name.utf8ByteSize then .error nameTooLong
      else .ok (Place.after (base.target cwd) name) := by
  have usable : base.isUsable := by
    refine Decidable.by_contra fun unusable => ?_
    obtain ⟨e, refused⟩ := makeDirectories_of_not_isUsable files cwd unusable
    rw [refused] at made
    cases made
  have along := makeDirectories_eq files trimmed usable (node?_start there base)
  rw [made] at along
  -- The walk goes through the directories that were made, and its last step is that of the name.
  obtain ⟨walked, directory⟩ := walk_of_makeAlong (node?_start there base) along.symm
  obtain ⟨parts, start⟩ := Path.parts_start_join cwd named filled
  rw [parts, start, walk_append, walked]
  change after.walk _ [name] = _
  rw [walk_cons, enter_of_directory directory]
  split
  next => rfl
  next => rfl

end VectorFetch.Files

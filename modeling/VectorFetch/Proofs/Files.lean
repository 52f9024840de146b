import VectorFetch.Files.Basic
import VectorFetch.Key

/-!
# What writing does to files

* `Path.IsName`, `locate_join`: a path behind a directory leads to a place of that name.
* `Leads`, `locate_eq_ok_iff`: what it takes for a path to lead anywhere.
* `Opening`, `openFile_eq_ok`: what becomes of files when one is opened.
* `RewrittenAt`, `Touches`: a file was written, or files of one name, and nothing else changed.
* `Holds`: a place to which bytes have been written.
* `Keeps`: a path to which bytes have been written, and that can be read.
-/

namespace VectorFetch

/-! ## Names -/

/-- A text that names one part of a path. -/
structure Path.IsName (name : String) : Prop where
  slashless : '/' ∉ name.toList
  notEmpty : name ≠ ""
  notHere : name ≠ "."
  notAbove : name ≠ ".."

namespace Path

theorem parts_of_isName {name : String} (named : IsName name) : (⟨name⟩ : Path).parts = [name] := by
  simp [parts, pieces, List.splitOn_eq_singleton named.slashless, named.notEmpty]

theorem parts_behind_slash (path : Path) {name : String} (named : IsName name) (front : List Char)
    (text : path.text.toList = front ++ '/' :: name.toList) :
    path.parts = (⟨String.ofList front⟩ : Path).parts ++ [name] := by
  simp [parts, pieces, text, List.splitOn_append_cons_self,
    List.splitOn_eq_singleton named.slashless, List.filter_append, named.notEmpty]

theorem endsInSlash_iff {path : Path} : path.endsInSlash ↔ ['/'] <:+ path.text.toList := by
  rw [endsInSlash, String.endsWith_eq_endsWith_toSlice, String.Slice.endsWith_string_iff]
  simp

theorem isAbsolute_iff (path : Path) : path.isAbsolute ↔ ['/'] <+: path.text.toList := by
  rw [isAbsolute, String.startsWith_eq_startsWith_toSlice, String.Slice.startsWith_string_iff]
  simp

theorem isAbsolute_append (path : Path) (notEmpty : path.text ≠ "") (more : String) :
    (⟨path.text ++ more⟩ : Path).isAbsolute = path.isAbsolute := by
  obtain ⟨c, rest, spelled⟩ := List.exists_cons_of_ne_nil
    fun none => notEmpty (String.toList_eq_nil_iff.1 none)
  rw [Bool.eq_iff_iff, isAbsolute_iff, isAbsolute_iff]
  simp [spelled]

theorem endsInSlash_append {name : String} (named : IsName name) (front : String) :
    (⟨front ++ name⟩ : Path).endsInSlash = false := by
  rw [Bool.eq_false_iff, Ne, endsInSlash_iff]
  rintro ⟨before, spelled⟩
  have filled : name.toList ≠ [] := fun none => named.notEmpty (String.toList_eq_nil_iff.1 none)
  have last : name.toList.getLast? = some '/' := by
    have same := congrArg List.getLast? spelled
    rw [String.toList_append, List.getLast?_append, List.getLast?_append] at same
    simpa [List.getLast?_eq_some_getLast filled] using same.symm
  exact named.slashless (List.mem_of_getLast? last)

/-- Behind a path that is not empty a name is the last part. -/
theorem join_of_ne {base : Path} {name : String} (named : IsName name) (notEmpty : base.text ≠ "") :
    (base.join name).parts = base.parts ++ [name] ∧
      ∃ middle, (base.join name).text = base.text ++ middle ++ name ∧
        (middle = "" ∨ middle = "/") := by
  -- A name is no absolute path, which would take the place of `base`.
  have relative : name.startsWith "/" = false := by
    rw [Bool.eq_false_iff]
    intro slash
    obtain ⟨rest, spelled⟩ := (isAbsolute_iff ⟨name⟩).1 slash
    exact named.slashless (spelled ▸ by simp)
  have present : base.text.isEmpty = false := by simpa using notEmpty
  simp only [join, relative, present, Bool.or_self, Bool.false_eq_true, if_false]
  split
  next slash =>
    obtain ⟨front, text⟩ := endsInSlash_iff.1 slash
    have behind := parts_behind_slash ⟨base.text ++ name⟩ named front (by simp [← text])
    refine ⟨?_, "", by simp, .inl rfl⟩
    rw [behind]
    simp [parts, pieces, ← text, List.splitOn_append_cons_self, List.filter_append]
  next =>
    have behind := parts_behind_slash ⟨base.text ++ "/" ++ name⟩ named base.text.toList (by simp)
    exact ⟨by rw [behind, String.ofList_toList], "/", rfl, .inr rfl⟩

theorem parts_join (base : Path) {name : String} (named : IsName name) :
    ∃ before, (base.join name).parts = before ++ [name] := by
  by_cases empty : base.text = ""
  · have alone : base.join name = ⟨name⟩ := by simp [join, empty]
    exact ⟨[], by rw [alone, parts_of_isName named]; rfl⟩
  · exact ⟨base.parts, (join_of_ne named empty).1⟩

theorem join_injective {base : Path} {a b : String} (namedA : IsName a) (namedB : IsName b)
    (same : base.join a = base.join b) : a = b := by
  obtain ⟨before, parts⟩ := base.parts_join namedA
  obtain ⟨before', parts'⟩ := base.parts_join namedB
  rw [same, parts'] at parts
  exact (List.singleton_inj.1 (List.append_inj_right' parts rfl)).symm

end Path

theorem Key.toList_fileName (key : Key) : key.fileName.toList =
    [(key.index / 16).digitChar, (key.index % 16).digitChar, '.', 'j', 's', 'o', 'n'] := by
  simp [fileName, text]

theorem Key.not_mem_fileName {c : Char} (key : Key) (notDigit : ∀ n < 16, n.digitChar ≠ c)
    (notEnding : c ∉ ['.', 'j', 's', 'o', 'n']) : c ∉ key.fileName.toList := by
  have high := notDigit (key.index / 16) (by have := key.index_lt; omega)
  have low := notDigit (key.index % 16) (by omega)
  simpa [toList_fileName, high.symm, low.symm] using notEnding

theorem Key.utf8ByteSize_fileName_le (key : Key) : key.fileName.utf8ByteSize ≤ 255 := by
  have ending : ".json".utf8ByteSize = 5 := by decide
  have high := (key.index / 16).digitChar.utf8Size_le_four
  have low := (key.index % 16).digitChar.utf8Size_le_four
  simp only [fileName, text, String.utf8ByteSize_append, String.ofList_cons, String.ofList_nil,
    String.utf8ByteSize_singleton, String.utf8ByteSize_empty, ending]
  omega

theorem Key.isName_fileName (key : Key) : Path.IsName key.fileName := by
  -- Seven characters, none of them a slash, so the name is none of the short special ones.
  have other : ∀ s : String, s.toList.length < 7 → key.fileName ≠ s := by
    rintro s short rfl
    simp [toList_fileName] at short
  exact {
    slashless := key.not_mem_fileName (by decide) (by decide)
    notEmpty := other "" (by decide)
    notHere := other "." (by decide)
    notAbove := other ".." (by decide) }

theorem Key.fileName_injective {a b : Key} (same : a.fileName = b.fileName) : a = b := by
  have text : a.text = b.text := by
    simpa [fileName, ← String.toList_inj] using same
  exact text_injective text

namespace Files

/-! ## Following paths -/

/-- Follows one part of a path. -/
def enter (files : Files) (place : Place) (part : String) : Except IoError Place :=
  match files.node? place with
  | none => .error notFound
  | some .directory =>
    if part = "." then .ok place
    else if part = ".." then .ok place.dropLast
    else if 255 < part.utf8ByteSize then .error nameTooLong
    else .ok (place ++ [part])
  | some _ => .error notDirectory

theorem walk_cons (files : Files) (place : Place) (part : String) (rest : List String) :
    files.walk place (part :: rest) = (files.enter place part).bind (files.walk · rest) := by
  rw [walk, enter]
  cases files.node? place with
  | none => rfl
  | some node =>
    cases node with
    | file | discard => rfl
    | directory =>
      dsimp only
      split
      next => rfl
      next =>
        split
        next => rfl
        next =>
          split
          next => rfl
          next => rfl

theorem walk_append (files : Files) (place : Place) (front rest : List String) :
    files.walk place (front ++ rest) = (files.walk place front).bind (files.walk · rest) := by
  induction front generalizing place with
  | nil => rfl
  | cons part front ih =>
    rw [List.cons_append, walk_cons, walk_cons]
    cases files.enter place part with
    | error e => rfl
    | ok next => exact ih next

section

variable {a b files : Files} {cwd place next : Place}
  {part name : String} {path : Path} {spot : Spot}

theorem directory_of_enter (entered : files.enter place part = .ok next) :
    files.node? place = some .directory := by
  unfold enter at entered
  split at entered
  next => cases entered
  next there => exact there
  next => cases entered

theorem enter_of_isName (named : Path.IsName name) (entered : files.enter place name = .ok next) :
    next = place ++ [name] := by
  have there := directory_of_enter entered
  simp only [enter, there, if_neg named.notHere, if_neg named.notAbove] at entered
  split at entered
  next => cases entered
  next => exact (Except.ok.inj entered).symm

/-- A path with a name at its end goes through a directory. -/
theorem walk_concat {front : List String} (walked : files.walk place (front ++ [part]) = .ok next) :
    ∃ dir, files.walk place front = .ok dir ∧ files.enter dir part = .ok next := by
  rw [walk_append] at walked
  cases before : files.walk place front with
  | error e =>
    rw [before] at walked
    cases walked
  | ok dir =>
    refine ⟨dir, rfl, ?_⟩
    rw [before] at walked
    change files.walk dir [part] = .ok next at walked
    rw [walk_cons] at walked
    cases entered : files.enter dir part with
    | error e =>
      rw [entered] at walked
      cases walked
    | ok last =>
      rw [entered] at walked
      exact walked

theorem enter_of_directories
    (same : ∀ place, a.node? place = some .directory → b.node? place = some .directory)
    (entered : a.enter place part = .ok next) : b.enter place part = .ok next := by
  have there := directory_of_enter entered
  simp only [enter, there, same place there] at entered ⊢
  exact entered

/-- Paths are followed over directories alone, so where a path leads depends on nothing else. -/
theorem walk_of_directories
    (same : ∀ place, a.node? place = some .directory → b.node? place = some .directory)
    {parts : List String} (walked : a.walk place parts = .ok next) :
    b.walk place parts = .ok next := by
  induction parts generalizing place with
  | nil => exact walked
  | cons part parts ih =>
    rw [walk_cons] at walked ⊢
    cases entered : a.enter place part with
    | error e =>
      rw [entered] at walked
      cases walked
    | ok between =>
      rw [entered] at walked
      rw [enter_of_directories same entered]
      exact ih walked

/-- What it takes for a path to lead anywhere. -/
structure Leads (files : Files) (cwd : Place) (path : Path) (spot : Spot) : Prop where
  clean : '\x00' ∉ path.text.toList
  filled : path.text ≠ ""
  short : path.text.utf8ByteSize ≤ 4095
  walked : files.walk (if path.isAbsolute then [] else cwd) path.parts = .ok spot.place
  wants : spot.wantsDirectory = path.endsInSlash

theorem locate_eq_ok_iff : files.locate cwd path = .ok spot ↔ Leads files cwd path spot := by
  constructor
  · intro located
    unfold locate at located
    split at located
    next => cases located
    next clean =>
      split at located
      next => cases located
      next filled =>
        split at located
        next => cases located
        next short =>
          split at located
          next => cases located
          next place walked =>
            cases located
            exact ⟨by simpa using clean, by simpa using filled, Nat.le_of_not_lt short, walked, rfl⟩
  · intro leads
    -- Each condition is the negation of one of the guards.
    have clean : path.text.toList.contains '\x00' = false := by simpa using leads.clean
    have filled : path.text.isEmpty = false := by simpa using leads.filled
    unfold locate
    rw [clean, filled, if_neg Bool.false_ne_true, if_neg Bool.false_ne_true,
      if_neg (Nat.not_lt.2 leads.short), leads.walked, ← leads.wants]

/-- A path behind a directory leads to a place of that name. -/
theorem locate_join {base : Path} (named : Path.IsName name)
    (located : files.locate cwd (base.join name) = .ok spot) :
    ∃ dir, spot.place = dir ++ [name] := by
  obtain ⟨before, parts⟩ := base.parts_join named
  have walked := (locate_eq_ok_iff.1 located).walked
  rw [parts] at walked
  obtain ⟨dir, -, entered⟩ := walk_concat walked
  exact ⟨dir, enter_of_isName named entered⟩

theorem locate_of_directories
    (same : ∀ place, a.node? place = some .directory → b.node? place = some .directory)
    (located : a.locate cwd path = .ok spot) : b.locate cwd path = .ok spot := by
  have leads := locate_eq_ok_iff.1 located
  exact locate_eq_ok_iff.2 { leads with walked := walk_of_directories same leads.walked }

end

/-! ## Opening a file -/

/-- What becomes of files when one is opened. -/
inductive Opening (files : Files) (place : Place) : Bool → Files → Prop where
  | kept {content : Bytes} {capacity : Capacity}
      (there : files.node? place = some (.file content capacity)) : Opening files place true files
  | emptied {content : Bytes} {capacity : Capacity}
      (there : files.node? place = some (.file content capacity)) :
      Opening files place false (files.set place (.file [] capacity))
  | device {keep : Bool} (there : files.node? place = some .discard) :
      Opening files place keep files
  | new {keep : Bool} (free : files.node? place = none) :
      Opening files place keep (files.set place (.file [] (files.capacityAt place)))

theorem openFile_eq_ok {keep : Bool} {files after : Files} {cwd place : Place} {path : Path}
    (opened : openFile keep files cwd path = .ok (place, after)) :
    files.locate cwd path = .ok ⟨place, false⟩ ∧ Opening files place keep after := by
  unfold openFile at opened
  split at opened
  next => cases opened
  next spot located =>
    obtain ⟨target, _ | _⟩ := spot
    · split at opened
      next => cases opened
      next there =>
        cases keep with
        | true =>
          cases opened
          exact ⟨located, .kept there⟩
        | false =>
          cases opened
          exact ⟨located, .emptied there⟩
      next there =>
        cases opened
        exact ⟨located, .device there⟩
      next free =>
        cases opened
        exact ⟨located, .new free⟩
    · -- A path that asks for a directory opens none of them.
      split at opened
      next => cases opened
      next => cases opened
      next => cases opened
      next => cases opened

/-- Limits of files that are yet to be made stay as they are. -/
theorem openFile_limits {keep : Bool} {files after : Files} {cwd place : Place} {path : Path}
    (opened : openFile keep files cwd path = .ok (place, after)) : after.limits = files.limits := by
  cases (openFile_eq_ok opened).2 with
  | kept | emptied | device | new => rfl

/-! ## Rewriting a file -/

/-- Only the root is a directory whatever is set there. -/
theorem node?_set_of_ne_directory {files : Files} {place : Place}
    (other : files.node? place ≠ some .directory) (node : Node) :
    (files.set place node).node? place = some node := by
  have notRoot : place ≠ [] := by
    rintro rfl
    exact other (node?_root files)
  exact node?_set_self notRoot files node

/-- Only the file at one place was written. It stayed a file, and a device stayed a device. -/
structure RewrittenAt (place : Place) (before after : Files) : Prop where
  others : ∀ other, other ≠ place → after.node? other = before.node? other
  notDirectory : before.node? place ≠ some .directory
  staysFile : after.node? place ≠ some .directory
  device : after.node? place = some .discard → before.node? place = some .discard

namespace RewrittenAt

variable {place : Place} {a b : Files}

theorem directory_iff (rewritten : RewrittenAt place a b) (other : Place) :
    b.node? other = some .directory ↔ a.node? other = some .directory := by
  by_cases here : other = place
  · subst here
    exact ⟨fun there => absurd there rewritten.staysFile,
      fun there => absurd there rewritten.notDirectory⟩
  · rw [rewritten.others other here]

theorem device_of_device (rewritten : RewrittenAt place a b) {other : Place}
    (kept : b.node? other = some .discard) : a.node? other = some .discard := by
  by_cases here : other = place
  · exact here ▸ rewritten.device (here ▸ kept)
  · rwa [rewritten.others other here] at kept

theorem same (notDirectory : a.node? place ≠ some .directory) : RewrittenAt place a a :=
  ⟨fun _ _ => rfl, notDirectory, notDirectory, id⟩

theorem set (notDirectory : a.node? place ≠ some .directory) (content : Bytes)
    (capacity : Capacity) :
    RewrittenAt place a (a.set place (.file content capacity)) := by
  have here := node?_set_of_ne_directory notDirectory (.file content capacity)
  exact {
    others := fun other away => node?_set_of_ne away a _
    notDirectory
    staysFile := by simp [here]
    device := by simp [here] }

end RewrittenAt

/-- Only files of one name were written. -/
structure Touches (name : String) (before after : Files) : Prop where
  others : ∀ place, (∀ dir, place ≠ dir ++ [name]) → after.node? place = before.node? place
  directories : ∀ place,
    after.node? place = some .directory ↔ before.node? place = some .directory
  devices : ∀ place, after.node? place = some .discard → before.node? place = some .discard

namespace Touches

variable {name : String} {a b c : Files}

theorem refl (name : String) (files : Files) : Touches name files files :=
  ⟨fun _ _ => rfl, fun _ => Iff.rfl, fun _ => id⟩

theorem trans (first : Touches name a b) (second : Touches name b c) : Touches name a c where
  others place away := (second.others place away).trans (first.others place away)
  directories place := (second.directories place).trans (first.directories place)
  devices place kept := first.devices place (second.devices place kept)

theorem of_rewrittenAt {dir : Place} (rewritten : RewrittenAt (dir ++ [name]) a b) :
    Touches name a b where
  others place away := rewritten.others place (away dir)
  directories := rewritten.directory_iff
  devices _ := rewritten.device_of_device

theorem locate_iff (touches : Touches name a b) {cwd : Place} {path : Path} {spot : Spot} :
    b.locate cwd path = .ok spot ↔ a.locate cwd path = .ok spot :=
  ⟨locate_of_directories fun place => (touches.directories place).1,
    locate_of_directories fun place => (touches.directories place).2⟩

end Touches

/-- A place to which bytes have been written: a file that holds them, or a device. -/
inductive Holds (files : Files) (place : Place) (bytes : Bytes) : Prop where
  | file {capacity : Capacity}
      (content : files.node? place = some (.file bytes capacity))
  | device (there : files.node? place = some .discard)

theorem Holds.of_touches {name : String} {place : Place} {a b : Files} {bytes : Bytes}
    (touches : Touches name a b) (away : ∀ dir, place ≠ dir ++ [name])
    (holds : a.Holds place bytes) : b.Holds place bytes := by
  have same := touches.others place away
  cases holds with
  | file content => exact .file (same.trans content)
  | device there => exact .device (same.trans there)

/-- A file that was created or emptied holds nothing. -/
theorem create_eq_ok {files after : Files} {cwd place : Place} {path : Path}
    (created : files.create cwd path = .ok (place, after)) :
    files.locate cwd path = .ok ⟨place, false⟩ ∧ RewrittenAt place files after ∧
      after.Holds place [] := by
  obtain ⟨located, opening⟩ := openFile_eq_ok created
  cases opening with
  | emptied there =>
    have notDirectory : files.node? place ≠ some .directory := by simp [there]
    exact ⟨located, .set notDirectory _ _, .file (node?_set_of_ne_directory notDirectory _)⟩
  | device there => exact ⟨located, .same (by simp [there]), .device there⟩
  | new free =>
    have notDirectory : files.node? place ≠ some .directory := by simp [free]
    exact ⟨located, .set notDirectory _ _, .file (node?_set_of_ne_directory notDirectory _)⟩

/-- A file to which bytes were written holds them behind what it held. -/
theorem store_of_holds {files : Files} {place : Place} {held : Bytes}
    (holds : files.Holds place held) (bytes : Bytes) :
    RewrittenAt place files (files.store place bytes).2 ∧
      ((files.store place bytes).1 = .ok () →
        (files.store place bytes).2.Holds place (held ++ bytes)) := by
  cases holds with
  | device there =>
    simp only [store, there]
    exact ⟨.same (by simp [there]), fun _ => .device there⟩
  | @file capacity there =>
    have notDirectory : files.node? place ≠ some .directory := by simp [there]
    have calls : (sinkOf held capacity).perCall ≠ some 0 := by
      cases capacity <;> simp [sinkOf]
    have content : (sinkOf held capacity).taken = held := by
      cases capacity <;> rfl
    simp only [store, there, Sink.takeAll_eq calls]
    -- What was taken is kept also where the rest was refused.
    refine ⟨.set notDirectory _ capacity, fun taken => ?_⟩
    split at taken
    next all =>
      have stored := node?_set_of_ne_directory notDirectory (.file (held ++ bytes) capacity)
      simp only [all, List.take_length, Sink.accept, content]
      exact .file stored
    next => cases taken

/-! ## Reading -/

/-- Whether a path leads to a device that keeps nothing. -/
def isDevice (files : Files) (cwd : Place) (path : Path) : Bool :=
  match files.locate cwd path with
  | .ok spot => files.node? spot.place = some .discard
  | .error _ => false

/-- A path to which bytes have been written. Reading gives the bytes, except where there was a
device all along. -/
def Keeps (before after : Files) (cwd : Place) (path : Path) (bytes : Bytes) : Prop :=
  before.isDevice cwd path = true ∨ after.read cwd path = .ok bytes

theorem Keeps.of_holds {before after : Files} {cwd place : Place} {path : Path} {bytes : Bytes}
    (first : before.locate cwd path = .ok ⟨place, false⟩)
    (located : after.locate cwd path = .ok ⟨place, false⟩)
    (device : after.node? place = some .discard → before.node? place = some .discard)
    (holds : after.Holds place bytes) : Keeps before after cwd path bytes := by
  cases holds with
  | file content => exact .inr (by simp [read, located, content])
  | device there => exact .inl (by simp [isDevice, first, device there])

end Files

end VectorFetch

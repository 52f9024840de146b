import VectorFetch.Files.Path
import VectorFetch.Sink

/-!
# Files

Files and directories by the names that lead to them from the root.

* `Place`, `Node`, `Files`: names from the root, what is stored there, and the whole.
* `Files.node?`, `Files.set`: one place at a time. `node?_set_self` and
  its like say what is stored where afterwards.
* `Files.locate`: follows a path to a place.
* `Files.create`, `Files.openForAppend`, `Files.store`: writing.
* `Files.read`, `Files.isDirectory`, `Files.isThere`, `Files.below`: looking.
* `Files.makeDirectory`, `Files.makeDirectories`: directories.

There are no links, so a place has one name. A file may take only so many bytes in all, be it there
already or yet to be made.
-/

namespace VectorFetch

/-! ## Places and nodes -/

/-- The names that lead from the root to a place. -/
abbrev Place := List String

/-- How many bytes a file takes in all and how it fails then; without a number there is no end. -/
abbrev Capacity := Option (Nat × LastingError)

/-- What is stored at a place. -/
inductive Node where
  | directory
  | file (content : Bytes) (capacity : Capacity)
  /-- A device that takes everything and keeps nothing. -/
  | discard
  deriving DecidableEq, Repr

/-- Everything that is stored, and what limits the files that are yet to be made. The root is always
a directory. -/
structure Files where
  entries : List (Place × Node)
  limits : List (Place × Nat × LastingError)
  deriving DecidableEq, Repr

namespace Files

def empty : Files := ⟨[], []⟩

/-- What is stored at a place. -/
def node? (files : Files) (place : Place) : Option Node :=
  if place = [] then some .directory
  else (files.entries.find? fun entry => entry.1 = place).map Prod.snd

/-- The entries with one of them set. -/
def setEntry (place : Place) (node : Node) : List (Place × Node) → List (Place × Node)
  | [] => [(place, node)]
  | (p, n) :: rest => if p = place then (p, node) :: rest else (p, n) :: setEntry place node rest

/-- Stores a node at a place. -/
def set (files : Files) (place : Place) (node : Node) : Files :=
  { files with entries := setEntry place node files.entries }

/-- How many bytes a file takes if it is made at a place. -/
def capacityAt (files : Files) (place : Place) : Capacity := files.limits.lookup place

/-! ### One place at a time -/

@[simp] theorem node?_root (files : Files) : files.node? [] = some .directory := rfl

theorem find?_setEntry_self (place : Place) (node : Node) (entries : List (Place × Node)) :
    ((setEntry place node entries).find? fun entry => entry.1 = place) = some (place, node) := by
  induction entries with
  | nil => simp [setEntry]
  | cons entry rest ih =>
    simp only [setEntry]
    split <;> simp_all

theorem find?_setEntry_of_ne {place other : Place} (h : other ≠ place) (node : Node)
    (entries : List (Place × Node)) :
    ((setEntry place node entries).find? fun entry => entry.1 = other) =
      entries.find? fun entry => entry.1 = other := by
  induction entries with
  | nil => simp [setEntry, h.symm]
  | cons entry rest ih =>
    simp only [setEntry]
    split
    · next e => subst e; simp [h.symm]
    · simp [List.find?_cons, ih]

theorem node?_set_self {place : Place} (h : place ≠ []) (files : Files) (node : Node) :
    (files.set place node).node? place = some node := by
  simp [node?, set, h, find?_setEntry_self]

theorem node?_set_of_ne {place other : Place} (h : other ≠ place) (files : Files) (node : Node) :
    (files.set place node).node? other = files.node? other := by
  simp [node?, set, find?_setEntry_of_ne h]

/-! ## System errors -/

/-- There is nothing at a path. -/
def notFound : IoError := .os 2

/-- There is something already. -/
def alreadyThere : IoError := .os 17

/-- A part of a path that should be a directory is none. -/
def notDirectory : IoError := .os 20

/-- A path that should be a file is a directory. -/
def isADirectory : IoError := .os 21

/-- A name or a path is too long. -/
def nameTooLong : IoError := .os 36

/-! ## Following paths -/

/-- Where a path leads. -/
structure Spot where
  place : Place
  /-- The path asks for a directory. -/
  wantsDirectory : Bool
  deriving DecidableEq, Repr

/-- Follows the parts of a path. All but the place at the end have to be directories. -/
def walk (files : Files) (place : Place) : List String → Except IoError Place
  | [] => .ok place
  | part :: rest =>
    match files.node? place with
    | none => .error notFound
    | some .directory =>
      if part = "." then files.walk place rest
      else if part = ".." then files.walk place.dropLast rest
      else if 255 < part.utf8ByteSize then .error nameTooLong
      else files.walk (place ++ [part]) rest
    | some _ => .error notDirectory

/-- Follows a path. Relative ones start at `cwd`. -/
def locate (files : Files) (cwd : Place) (path : Path) : Except IoError Spot :=
  if path.text.toList.contains '\x00' then .error .nulInName
  else if path.text.isEmpty then .error notFound
  else if 4095 < path.text.utf8ByteSize then .error nameTooLong
  else
    match files.walk (if path.isAbsolute then [] else cwd) path.parts with
    | .error e => .error e
    | .ok place => .ok ⟨place, path.endsInSlash⟩

/-! ## Writing -/

/-- Opens a file for writing; `keep` says whether its content stays. A missing file is
created. -/
def openFile (keep : Bool) (files : Files) (cwd : Place) (path : Path) :
    Except IoError (Place × Files) :=
  match files.locate cwd path with
  | .error e => .error e
  | .ok spot =>
    match files.node? spot.place with
    | some .directory => .error isADirectory
    | some (.file _ capacity) =>
      if spot.wantsDirectory then .error notDirectory
      else if keep then .ok (spot.place, files)
      else .ok (spot.place, files.set spot.place (.file [] capacity))
    | some .discard =>
      if spot.wantsDirectory then .error notDirectory else .ok (spot.place, files)
    | none =>
      if spot.wantsDirectory then .error isADirectory
      else .ok (spot.place, files.set spot.place (.file [] (files.capacityAt spot.place)))

/-- Creates a file, or empties the one that is there. -/
def create (files : Files) (cwd : Place) (path : Path) : Except IoError (Place × Files) :=
  openFile false files cwd path

/-- Opens a file to write behind its end. -/
def openForAppend (files : Files) (cwd : Place) (path : Path) : Except IoError (Place × Files) :=
  openFile true files cwd path

/-- The sink that a file is. -/
def sinkOf (content : Bytes) (capacity : Capacity) : Sink :=
  match capacity with
  | none => ⟨none, none, .silence, content⟩
  | some (n, e) => ⟨some (n - content.length), none, .failure e, content⟩

/-- Writes behind the end of an open file, as much as fits. -/
def store (files : Files) (place : Place) (bytes : Bytes) : Except IoError Unit × Files :=
  match files.node? place with
  | some (.file content capacity) =>
    let (result, sink) := (sinkOf content capacity).takeAll bytes
    (result, files.set place (.file sink.taken capacity))
  | some .discard => (.ok (), files)
  | _ => (.error notFound, files)

/-- Replaces the whole content of a file. -/
def write (files : Files) (cwd : Place) (path : Path) (content : Bytes) :
    Except IoError Unit × Files :=
  match files.create cwd path with
  | .error e => (.error e, files)
  | .ok (place, files) => files.store place content

/-! ## Looking -/

def read (files : Files) (cwd : Place) (path : Path) : Except IoError Bytes :=
  match files.locate cwd path with
  | .error e => .error e
  | .ok spot =>
    match files.node? spot.place with
    | some .directory => .error isADirectory
    | some (.file content _) => if spot.wantsDirectory then .error notDirectory else .ok content
    | some .discard => if spot.wantsDirectory then .error notDirectory else .ok []
    | none => .error notFound

/-- Whether a path leads to a directory. -/
def isDirectory (files : Files) (cwd : Place) (path : Path) : Bool :=
  match files.locate cwd path with
  | .ok spot => files.node? spot.place = some .directory
  | .error _ => false

/-- Whether a path leads to anything. -/
def isThere (files : Files) (cwd : Place) (path : Path) : Bool :=
  match files.locate cwd path with
  | .ok spot =>
    match files.node? spot.place with
    | none => false
    | some .directory => true
    | some _ => !spot.wantsDirectory
  | .error _ => false

/-- Everything below a place, by the names from there. -/
def below (files : Files) (place : Place) : List (Place × Node) :=
  files.entries.filterMap fun (p, node) =>
    if place.isPrefixOf p && p ≠ place then some (p.drop place.length, node) else none

/-! ## Directories -/

def makeDirectory (files : Files) (cwd : Place) (path : Path) : Except IoError Files :=
  match files.locate cwd path with
  | .error e => .error e
  | .ok spot =>
    match files.node? spot.place with
    | some _ => .error alreadyThere
    | none => .ok (files.set spot.place .directory)

/-- Makes a directory that may be there already. -/
def ensureDirectory (files : Files) (cwd : Place) (path : Path) : Except IoError Files :=
  match files.makeDirectory cwd path with
  | .ok files => .ok files
  | .error e => if files.isDirectory cwd path then .ok files else .error e

/-- Makes a directory and the missing ones above it, with at most `fuel` steps up. The
ones that were made stay when a later one fails. -/
def makeDirectoriesFrom (files : Files) (cwd : Place) :
    Nat → Path → Except IoError Unit × Files
  | 0, _ => (.error notFound, files)
  | fuel + 1, path =>
    if path.text.isEmpty then (.ok (), files)
    else
      match files.makeDirectory cwd path with
      | .ok files => (.ok (), files)
      | .error e =>
        if e = notFound then
          match path.parent? with
          | none => (.error (.custom "failed to create whole tree"), files)
          | some parent =>
            match files.makeDirectoriesFrom cwd fuel parent with
            | (.error e, files) => (.error e, files)
            | (.ok (), files) =>
              match files.ensureDirectory cwd path with
              | .ok files => (.ok (), files)
              | .error e => (.error e, files)
        else if files.isDirectory cwd path then (.ok (), files)
        else (.error e, files)

/-- Makes a directory and the missing ones above it. -/
def makeDirectories (files : Files) (cwd : Place) (path : Path) : Except IoError Unit × Files :=
  files.makeDirectoriesFrom cwd (path.text.length + 1) path

end Files

end VectorFetch

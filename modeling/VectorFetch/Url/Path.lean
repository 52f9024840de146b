import VectorFetch.Url.Percent

/-!
# Paths of URLs

A path is a list of segments, each written behind a slash.

* `Path.isSingleDot`, `Path.isDoubleDot`, `Path.isDrive`: segments with a meaning of
  their own. A drive letter at the start of a path is never removed.
* `Path.Walk`: the path while its segments are read one after the other.
* `Path.segments`: reads the text of a path.
* `Path.text`: writes the segments.
-/

namespace VectorFetch.Url.Path

/-! ## Segments with a meaning of their own -/

/-- The segment for the directory itself. -/
def isSingleDot (s : List Char) : Bool :=
  s = ['.'] || s = ['%', '2', 'e'] || s = ['%', '2', 'E']

/-- The segment for the directory above, which may be spelled with encoded dots. -/
def isDoubleDot (s : List Char) : Bool :=
  match s with
  | '.' :: rest => isSingleDot rest
  | '%' :: '2' :: e :: rest => (e = 'e' || e = 'E') && isSingleDot rest
  | _ => false

def isLetter (c : Char) : Bool := ('a' ≤ c && c ≤ 'z') || ('A' ≤ c && c ≤ 'Z')

/-- A letter with a colon or a bar. -/
def isDrive (s : List Char) : Bool :=
  match s with
  | [c, mark] => isLetter c && (mark = ':' || mark = '|')
  | _ => false

/-- A segment that `..` does not remove: a drive letter, alone or before a backslash. -/
def isAnchored (s : List Char) : Bool :=
  match s with
  | c :: mark :: rest =>
    isLetter c && (mark = ':' || mark = '|') && (rest.isEmpty || rest.head? = some '\\')
  | _ => false

/-! ## Reading -/

/-- The finished segments of a path, the last one first, and whether a drive letter
has stood at its start. -/
structure Walk where
  done : List (List Char)
  drive : Bool

/-- Goes one directory up, if the last segment may be removed. -/
def Walk.up (w : Walk) : Walk :=
  match w.done with
  | [] => w
  | last :: rest => if isAnchored last then w else { w with done := rest }

/-- Adds a segment. Under the file scheme a drive letter at the start of the path is
written with a colon. -/
def Walk.add (file : Bool) (w : Walk) (segment : List Char) : Walk :=
  if file && w.done.isEmpty && isDrive segment then
    ⟨[segment.take 1 ++ [':']], true⟩
  else { w with done := segment :: w.done }

/-- One segment that a slash follows. -/
def Walk.step (file : Bool) (w : Walk) (segment : List Char) : Walk :=
  if isDoubleDot segment then w.up
  else if isSingleDot segment then w
  else w.add file segment

/-- The last segment. Behind a dot segment the path ends in a slash. -/
def Walk.finish (file : Bool) (w : Walk) (segment : List Char) : Walk :=
  if isDoubleDot segment then { w.up with done := [] :: w.up.done }
  else if isSingleDot segment then { w with done := [] :: w.done }
  else w.add file segment

def Walk.run (file : Bool) (w : Walk) : List (List Char) → Walk
  | [] => w
  | [last] => w.finish file last
  | segment :: rest => (w.step file segment).run file rest

/-- The texts between the slashes. Under the special schemes a backslash is a slash. -/
def split (special : Bool) (s : List Char) : List (List Char) :=
  s.splitOnP fun c => c = '/' || (special && c = '\\')

/-- Drops empty segments at the start, up to the last one. -/
def trimStart : List (List Char) → List (List Char)
  | [] :: s :: rest => trimStart (s :: rest)
  | segments => segments

/-- Reads a path behind the segments `before`, which count as read. The answer tells
whether a drive letter has stood at its start. -/
def segments (special file : Bool) (before : List (List Char)) (s : List Char) :
    List (List Char) × Bool :=
  let pieces := (split special s).map (Percent.encode Percent.inPath)
  let w := Walk.run file ⟨before, false⟩ pieces
  (if file then trimStart w.done.reverse else w.done.reverse, w.drive)

/-! ## Writing -/

def text (segments : List (List Char)) : List Char := segments.flatMap fun s => '/' :: s

end VectorFetch.Url.Path

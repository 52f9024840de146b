/-!
# Paths

A path is a text. Its parts stand between slashes; empty parts and `.` say nothing,
except for a `.` at the start.

* `Path.join`: a path behind another one.
* `Path.parent?`: the path without its last part.
* `Path.parts`, `Path.isAbsolute`, `Path.endsInSlash`: what it takes to follow a path.
-/

namespace VectorFetch

/-- A path as it is written. -/
structure Path where
  text : String
  deriving DecidableEq, Repr, Inhabited

namespace Path

instance : ToString Path := ⟨text⟩

/-- Whether a path starts at the root. -/
def isAbsolute (p : Path) : Bool := p.text.startsWith "/"

/-- Whether a path asks for a directory by its last character. -/
def endsInSlash (p : Path) : Bool := p.text.endsWith "/"

/-- A path behind another one. An absolute path stands for itself. -/
def join (base : Path) (name : String) : Path :=
  if name.startsWith "/" || base.text.isEmpty then ⟨name⟩
  else if base.endsInSlash then ⟨base.text ++ name⟩
  else ⟨base.text ++ "/" ++ name⟩

def pieces (p : Path) : List String := (p.text.toList.splitOn '/').map String.ofList

/-- The texts between the slashes that are not empty. -/
def parts (p : Path) : List String := p.pieces.filter (· ≠ "")

/-- Drops pieces without meaning from the end, down to the first piece. The pieces
come last one first. -/
def trimEnd : List String → List String
  | piece :: next :: rest =>
    if piece = "" || piece = "." then trimEnd (next :: rest) else piece :: next :: rest
  | pieces => pieces

/-- The path without its last part. The root and the empty path have none. -/
def parent? (p : Path) : Option Path :=
  match trimEnd p.pieces.reverse with
  | _ :: next :: rest =>
    let kept := trimEnd (next :: rest)
    some ⟨if kept = [""] then "/" else "/".intercalate kept.reverse⟩
  | [first] => if first = "" then none else some ⟨""⟩
  | [] => none

end Path

end VectorFetch

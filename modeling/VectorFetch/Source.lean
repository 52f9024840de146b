import VectorFetch.Key
import VectorFetch.Url.Reader

/-!
# Sources

A source is the directory that holds the vector files.

* `Source.parse`: reads the URL of a directory; a missing slash at its end is added.
* `Source.fixed`: where the vectors of the program are published.
* `Source.resource`: the URL of the file of a key.
-/

namespace VectorFetch

/-- The directory that holds the vector files. -/
structure Source where
  base : Url
  deriving DecidableEq, Repr

namespace Source

/-- Reads a source. The file names take the place of the last segment of the path, so
the path is made to end in a slash. -/
def parse (s : String) : Except Url.Fault Source :=
  match Url.parse s with
  | .error fault => .error fault
  | .ok url =>
    if url.path.text.endsWith "/" then .ok ⟨url⟩
    else .ok ⟨url.withPath (url.path.text ++ "/")⟩

/-- The text of the fixed source. -/
def fixedText : String :=
  "https://raw.githubusercontent.com/TomHarte/ProcessorTests/main/nes6502/v1/"

/-- The directory of the processor test vectors, as its text is read. -/
def fixed : Source where
  base := {
    scheme := "https"
    authority := some (.ofHost (.domain "raw.githubusercontent.com"))
    path := .segments ["TomHarte", "ProcessorTests", "main", "nes6502", "v1", ""]
    query := none
    fragment := none }

/-- The URL of the file of a key. -/
def resource (source : Source) (key : Key) : Except Url.Fault Url :=
  source.base.sibling key.fileName

end Source

end VectorFetch

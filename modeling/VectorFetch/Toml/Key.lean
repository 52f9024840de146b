import VectorFetch.Toml.Item
import VectorFetch.Toml.Text

/-!
# Keys in TOML

* `name?`: one key, bare or quoted.
* `KeyPath`, `keyPath?`: keys with dots between them.
-/

namespace VectorFetch.Toml

/-- A character of a key without quotes. -/
def isBare (c : Char) : Bool :=
  ('0' ≤ c && c ≤ '9') || ('a' ≤ c && c ≤ 'z') || ('A' ≤ c && c ≤ 'Z') || c = '-' || c = '_'

def name? (s : List Char) : Option (Name × List Char) :=
  match s.takeWhile isBare with
  | [] => (lineString? s).map fun (text, rest) => (⟨text, .between s rest⟩, rest)
  | word => some (⟨String.ofList word, .between s (s.dropWhile isBare)⟩, s.dropWhile isBare)

/-- Keys with dots between them: the way to a table, and a key in it. -/
structure KeyPath where
  parents : List Name
  name : Name
  deriving DecidableEq, Repr

/-- How many keys there may be with dots between them, and one more. -/
def depthLimit : Nat := 80

/-- Keys with dots between them and blanks around each, at most `fuel` of them. -/
def keysFrom? : Nat → List Char → Option (KeyPath × List Char)
  | 0, _ => none
  | fuel + 1, s =>
    match name? (skipBlanks s) with
    | none => none
    | some (name, rest) =>
      match skipBlanks rest with
      | '.' :: rest =>
        (keysFrom? fuel rest).map fun (path, rest) =>
          ({ path with parents := name :: path.parents }, rest)
      | rest => some (⟨[], name⟩, rest)

/-- Keys with dots between them and blanks around each. -/
def keyPath? (s : List Char) : Option (KeyPath × List Char) := keysFrom? (depthLimit - 1) s

end VectorFetch.Toml

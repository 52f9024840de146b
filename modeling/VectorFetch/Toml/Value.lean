import VectorFetch.Toml.Moment
import VectorFetch.Toml.Tree

/-!
# Reading TOML values

* `word?`: the values that are words.
* `items?`, `entries?`: what stands between brackets and between braces.
* `value?`: any value, with so many levels of brackets and braces.

Each reader answers with the text behind what it has read.
-/

namespace VectorFetch.Toml

/-! ## Values without parts -/

/-- The values that are words. -/
def word? : List Char → Option (Scalar × List Char)
  | 't' :: 'r' :: 'u' :: 'e' :: rest => some (.boolean true, rest)
  | 'f' :: 'a' :: 'l' :: 's' :: 'e' :: rest => some (.boolean false, rest)
  | 'i' :: 'n' :: 'f' :: rest => some (.float (.infinite false), rest)
  | 'n' :: 'a' :: 'n' :: rest => some (.float .nan, rest)
  | _ => none

/-- A value without parts. -/
def scalarValue? (s : List Char) : Option (Scalar × List Char) :=
  match s with
  | [] => none
  | c :: _ =>
    if c = '"' || c = '\'' then (string? s).map fun (text, rest) => (.string text, rest)
    else if c = '+' || c = '-' || isDecimal c then
      match moment? s with
      | some rest => some (.moment, rest)
      | none => number? s
    else word? s

/-! ## Values with parts -/

/-- The items of an array up to its closing bracket, at most `fuel` of them. The last
one may have a comma behind it. -/
def items? (item : List Char → Option (Item × List Char)) :
    Nat → List Char → Option (List Item × List Char)
  | 0, _ => none
  | fuel + 1, s => do
    match ← skipFiller? false s with
    | ']' :: rest => return ([], rest)
    | s =>
      let (first, s) ← item s
      match ← skipFiller? false s with
      | ',' :: rest =>
        let (others, rest) ← items? item fuel rest
        return (first :: others, rest)
      | ']' :: rest => return ([first], rest)
      | _ => none

def pair? (item : List Char → Option (Item × List Char)) (s : List Char) :
    Option ((KeyPath × Item) × List Char) := do
  let (path, s) ← keyPath? s
  match s with
  | '=' :: rest =>
    let (value, rest) ← item (skipBlanks rest)
    return ((path, value), rest)
  | _ => none

/-- The entries of a table between braces up to its closing brace, at most `fuel` of
them. There is at least one. -/
def entries? (item : List Char → Option (Item × List Char)) :
    Nat → List Char → Option (List (KeyPath × Item) × List Char)
  | 0, _ => none
  | fuel + 1, s => do
    let (first, s) ← pair? item s
    match skipBlanks s with
    | ',' :: rest =>
      let (others, rest) ← entries? item fuel rest
      return (first :: others, rest)
    | '}' :: rest => return ([first], rest)
    | _ => none

/-- A table between braces, from behind the opening one. -/
def inline? (item : List Char → Option (Item × List Char)) (s : List Char) :
    Option (Members × List Char) :=
  match skipBlanks s with
  | '}' :: rest => some ([], rest)
  | _ => do
    let (pairs, rest) ← entries? item s.length s
    let members ← Members.insertAll? pairs []
    return (members, rest)

/-- Any value, with at most so many levels of brackets and braces. -/
def value? : Nat → List Char → Option (Item × List Char)
  | 0 => fun s =>
    (scalarValue? s).map fun (value, rest) => (.scalar (.between s rest) value, rest)
  | levels + 1 => fun s =>
    match s with
    | '[' :: inner =>
      (items? (value? levels) inner.length inner).map fun (items, rest) =>
        (.array (.between s rest) items, rest)
    | '{' :: inner =>
      (inline? (value? levels) inner).map fun (members, rest) =>
        (.table (some (.between s rest)) .inline members, rest)
    | s => (scalarValue? s).map fun (value, rest) => (.scalar (.between s rest) value, rest)

end VectorFetch.Toml

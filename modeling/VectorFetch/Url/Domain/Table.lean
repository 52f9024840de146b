import VectorFetch.Text.Radix

/-!
# Tables of characters

A table is written as lines of entries with blanks between them. An entry starts with a
code point, or with the first and the last one of a range and a dash between them, in
hexadecimal; behind it stands what the table tells about them.

* `Entry`, `entries`: reads the lines of a table.
* `find?`: the entry of a character.
-/

namespace VectorFetch.Url.Domain

/-- What a table tells about a range of code points, both ends included. -/
structure Entry where
  first : Nat
  last : Nat
  note : List Char
  deriving Inhabited, Repr

namespace Table

/-- The number of a hexadecimal digit. What is told about characters is in capitals. -/
def digitValue? (c : Char) : Option Nat := if c.isUpper then none else Radix.digit? 16 c

/-- The hexadecimal number at the start of a text behind a number so far, and the text
behind it. -/
def number (n : Nat) : List Char → Nat × List Char
  | [] => (n, [])
  | c :: rest =>
    match digitValue? c with
    | some d => number (16 * n + d) rest
    | none => (n, c :: rest)

def entry (s : List Char) : Entry :=
  match number 0 s with
  | (first, '-' :: rest) =>
    let (last, note) := number 0 rest
    ⟨first, last, note⟩
  | (n, note) => ⟨n, n, note⟩

/-- Reads the lines of a table. -/
def entries (lines : List String) : Array Entry :=
  (lines.flatMap fun line =>
    ((line.toList.splitOn ' ').filter fun word => !word.isEmpty).map entry).toArray

/-- The entry of a code point among those from index `low` up to but without index
`high`, by halving. -/
def search (table : Array Entry) (n low high : Nat) : Option Entry :=
  if low < high then
    let mid := (low + high) / 2
    match table[mid]? with
    | some e =>
      if n < e.first then search table n low mid
      else if e.last < n then search table n (mid + 1) high
      else some e
    | none => none
  else none
termination_by high - low

/-- The entry of a character. The entries are in increasing order. -/
def find? (table : Array Entry) (c : Char) : Option Entry :=
  search table c.toNat 0 table.size

/-- The numbers with a plus sign between them, as characters. -/
def characters (s : List Char) : List Char :=
  (s.splitOn '+').map fun digits => Char.ofNat (number 0 digits).1

end Table

end VectorFetch.Url.Domain

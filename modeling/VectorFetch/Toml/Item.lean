import VectorFetch.Decimal.Double

/-!
# TOML values

* `Span`, `Name`: a part of a text, and a key with the part it was read from.
* `Scalar`, `Form`, `Item`: values without parts, the ways in which tables come about,
  and all values.
* `Members`: the entries of a table in the order of their first mention.

Places in a text are counted from its end, in bytes, so that they can be told from the
rest of the text alone.
-/

namespace VectorFetch.Toml

/-! ## Places -/

/-- The size of a list of characters in bytes. -/
def size (chars : List Char) : Nat := chars.foldr (fun c n => c.utf8Size + n) 0

/-- A part of a text, by the bytes that are left at its start and behind it. -/
structure Span where
  startLeft : Nat
  stopLeft : Nat
  deriving DecidableEq, Repr

namespace Span

/-- The part between two rests of a text. -/
def between (start stop : List Char) : Span := ⟨size start, size stop⟩

/-- From the start of one part to the end of another one. -/
def through (first last : Span) : Span := ⟨first.startLeft, last.stopLeft⟩

/-- The first byte of a part of a text that has so many bytes. -/
def start (total : Nat) (span : Span) : Nat := total - span.startLeft

/-- The first byte behind a part of a text that has so many bytes. -/
def stop (total : Nat) (span : Span) : Nat := total - span.stopLeft

end Span

/-- A key and the part it was read from. -/
structure Name where
  text : String
  span : Span
  deriving DecidableEq, Repr

/-! ## Values -/

/-- A value without parts. Of a date or a time only that it is one is kept. -/
inductive Scalar where
  | string (text : String)
  | integer (value : Int64)
  | float (value : Double)
  | boolean (value : Bool)
  | moment
  deriving DecidableEq, Repr

/-- How a table came about. -/
inductive Form where
  /-- It stands between braces. -/
  | inline
  /-- A header opens it. -/
  | header
  /-- The header of a table below it implies it. -/
  | implied
  /-- A dotted key makes it. -/
  | dotted
  deriving DecidableEq, Repr

/-- A value. -/
inductive Item where
  | scalar (span : Span) (value : Scalar)
  | array (span : Span) (items : List Item)
  /-- A table. Only one that is written as a whole has a part of its own. -/
  | table (span : Option Span) (form : Form) (members : List (Name × Item))
  /-- A list of tables, each opened by a header of its own. The latest one is apart. -/
  | tables (earlier : List Item) (span : Span) (latest : List (Name × Item))

/-- The entries of a table. -/
abbrev Members := List (Name × Item)

namespace Item

/-- The part of a list of tables, from its first header on. -/
def tablesSpan : List Item → Span → Span
  | .table (some first) _ _ :: _, span => first.through span
  | _, span => span

/-- The part a value was read from. -/
def span? : Item → Option Span
  | .scalar span _ => some span
  | .array span _ => some span
  | .table span _ _ => span
  | .tables earlier span _ => some (tablesSpan earlier span)

end Item

namespace Members

def lookup? (key : String) : Members → Option Item
  | [] => none
  | (name, item) :: rest => if name.text = key then some item else lookup? key rest

/-- Gives a key that is there another value. -/
def replace (key : String) (item : Item) : Members → Members
  | [] => []
  | (name, old) :: rest =>
    if name.text = key then (name, item) :: rest else (name, old) :: replace key item rest

def erase (key : String) : Members → Members
  | [] => []
  | (name, item) :: rest => if name.text = key then rest else (name, item) :: erase key rest

/-- Adds a key at the end. A key that is there is refused. -/
def append? (name : Name) (item : Item) (members : Members) : Option Members :=
  match members.lookup? name.text with
  | some _ => none
  | none => some (members ++ [(name, item)])

end Members

end VectorFetch.Toml

import VectorFetch.Toml.Key

/-!
# Building tables in TOML

A statement adds to a table that others have begun, as far as the rules allow it. No
key is given twice.

* `Route`: whether a header or a dotted key leads to a table, and which tables each may
  enter.
* `Members.edit?`: changes the table at the end of a path.
* `Members.insert?`: adds the value of a dotted key.
* `Section`, `Members.addSection?`: adds all that stands below one header.
-/

namespace VectorFetch.Toml

/-! ## Routes -/

/-- What leads to a table. -/
inductive Route where
  | header
  | dottedKey
  deriving DecidableEq, Repr

namespace Route

/-- How a table comes about that is missing on the way. -/
def form : Route → Form
  | .header => .implied
  | .dottedKey => .dotted

/-- Whether a table may be entered; `last` says that the way ends there. Headers enter
all but those between braces. Dotted keys enter those that dotted keys have made, and
pass through implied ones. -/
def enters (route : Route) (last : Bool) (form : Form) : Bool :=
  match route with
  | .header => form ≠ .inline
  | .dottedKey => form = .dotted || (form = .implied && !last)

/-- Whether the latest table of a list may be entered. -/
def entersLatest (route : Route) (last : Bool) : Bool :=
  match route with
  | .header => true
  | .dottedKey => !last

end Route

/-! ## Changing tables -/

namespace Members

/-- Changes the table at the end of a path. Missing tables on the way are made. -/
def edit? (route : Route) (change : Members → Option Members) :
    List Name → Members → Option Members
  | [], members => change members
  | name :: path, members =>
    match members.lookup? name.text with
    | none =>
      (edit? route change path []).map fun below =>
        members ++ [(name, .table none route.form below)]
    | some (.table span form below) =>
      if route.enters path.isEmpty form then
        (edit? route change path below).map fun below =>
          members.replace name.text (.table span form below)
      else none
    | some (.tables earlier span latest) =>
      if route.entersLatest path.isEmpty then
        (edit? route change path latest).map fun latest =>
          members.replace name.text (.tables earlier span latest)
      else none
    | some _ => none

/-- Adds the value of a dotted key. -/
def insert? (path : KeyPath) (item : Item) (members : Members) : Option Members :=
  members.edit? .dottedKey (append? path.name item) path.parents

/-- Adds the values of dotted keys, one after the other. -/
def insertAll? : List (KeyPath × Item) → Members → Option Members
  | [], members => some members
  | (path, item) :: rest, members => (members.insert? path item).bind (insertAll? rest)

end Members

/-! ## Sections -/

/-- A header and the values of keys below it. -/
structure Section where
  path : KeyPath
  /-- The header stands between two pairs of brackets and opens one more table of a
  list. -/
  repeated : Bool
  /-- The part of the header alone. -/
  span : Span
  pairs : List (KeyPath × Item)

namespace Section

/-- The part from the header to the last value. -/
def wholeSpan (s : Section) : Span :=
  match s.pairs.getLast? with
  | some (_, item) => s.span.through (item.span?.getD s.span)
  | none => s.span

/-- Opens the table in the one above it and fills it. Only an implied table may be there
already. -/
def openTable? (s : Section) (members : Members) : Option Members :=
  match members.lookup? s.path.name.text with
  | none =>
    (Members.insertAll? s.pairs []).map fun filled =>
      members ++ [(s.path.name, .table (some s.wholeSpan) .header filled)]
  | some (.table _ .implied begun) =>
    (Members.insertAll? s.pairs begun).map fun filled =>
      members.erase s.path.name.text
        ++ [(s.path.name, .table (some s.wholeSpan) .header filled)]
  | some _ => none

/-- Adds a table to a list in the table above it and fills it. -/
def openNext? (s : Section) (members : Members) : Option Members :=
  match members.lookup? s.path.name.text with
  | none =>
    (Members.insertAll? s.pairs []).map fun filled =>
      members ++ [(s.path.name, .tables [] s.wholeSpan filled)]
  | some (.tables earlier span latest) =>
    (Members.insertAll? s.pairs []).map fun filled =>
      members.replace s.path.name.text
        (.tables (earlier ++ [.table (some span) .header latest]) s.wholeSpan filled)
  | some _ => none

end Section

namespace Members

/-- Adds all that stands below one header. -/
def addSection? (members : Members) (s : Section) : Option Members :=
  members.edit? .header (if s.repeated then s.openNext? else s.openTable?) s.path.parents

/-- Adds sections, one after the other. -/
def addSections? : List Section → Members → Option Members
  | [], members => some members
  | s :: rest, members => (members.addSection? s).bind (addSections? rest)

end Members

end VectorFetch.Toml

import VectorFetch.Toml.Value

/-!
# TOML documents

A document is a list of statements, one a line: headers, and keys with their values.

* `Statement`, `statements?`: reads the statements of a text.
* `sections`: the statements by the headers above them.
* `parse?`: the table that a document stands for, if it is one.
* `Wording`: what is said about a text that is none.
-/

namespace VectorFetch.Toml

/-- What is said about a text that is no document: where it goes wrong, and in which way. -/
abbrev Wording := String → String

/-! ## Statements -/

/-- A statement. -/
inductive Statement where
  /-- A key with its value. -/
  | pair (path : KeyPath) (item : Item)
  /-- The header of a table, or of one more table of a list. -/
  | header (path : KeyPath) (repeated : Bool) (span : Span)

/-- A header from behind its opening brackets up to its closing ones; `whole` is the
text at its start. -/
def header? (repeated : Bool) (whole s : List Char) : Option (Statement × List Char) := do
  let (path, s) ← keyPath? s
  let s ← skip? ']' s
  let s ← if repeated then skip? ']' s else some s
  return (.header path repeated (.between whole s), s)

/-- A statement without what may stand behind it. -/
def statement? (s : List Char) : Option (Statement × List Char) :=
  match s with
  | '[' :: '[' :: rest => header? true s rest
  | '[' :: rest => header? false s rest
  | s => (pair? (value? (depthLimit - 1)) s).map fun ((path, item), rest) => (.pair path item, rest)

/-- The statements of a text, each on a line of its own, at most `fuel` lines. -/
def statementsFrom? : Nat → List Char → Option (List Statement)
  | 0, _ => none
  | fuel + 1, s =>
    match skipBlanks s with
    | [] => some []
    | '#' :: rest => (lineEnd? (skipComment ('#' :: rest))).bind (statementsFrom? fuel)
    | c :: rest =>
      match newline? (c :: rest) with
      | some rest => statementsFrom? fuel rest
      | none => do
        let (statement, rest) ← statement? (c :: rest)
        let others ← statementsFrom? fuel (← trailing? rest)
        return statement :: others

/-- The mark that may stand before everything else. -/
def byteOrderMark : Char := '\ufeff'

def statements? (s : List Char) : Option (List Statement) :=
  let s := if s.head? = some byteOrderMark then s.drop 1 else s
  statementsFrom? (s.length + 1) s

/-! ## Documents -/

/-- The pairs before the first header, and the sections behind them. -/
def sections : List Statement → List (KeyPath × Item) × List Section
  | [] => ([], [])
  | .pair path item :: rest =>
    let (pairs, others) := sections rest
    ((path, item) :: pairs, others)
  | .header path repeated span :: rest =>
    let (pairs, others) := sections rest
    ([], ⟨path, repeated, span, pairs⟩ :: others)

/-- The table that a document stands for. -/
def parse? (text : String) : Option Members := do
  let statements ← statements? text.toList
  let (pairs, sections) := sections statements
  let members ← Members.insertAll? pairs []
  members.addSections? sections

end VectorFetch.Toml

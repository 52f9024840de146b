import VectorFetch.Text.Quoted
import VectorFetch.Toml.Item

/-!
# Values of the wrong type

* `Wanted`, `Mismatch`: what a value should have been, and a value that is not.
* `Mismatch.message`: the wording.
* `Mismatch.excerpt`: the wording below the line of the document that it is about.
-/

namespace VectorFetch.Toml

/-- What a value should have been. -/
inductive Wanted where
  | word64
  | word32
  | boolean
  | settings
  deriving DecidableEq, Repr

def Wanted.text : Wanted → String
  | .word64 => "u64"
  | .word32 => "u32"
  | .boolean => "a boolean"
  | .settings => "struct HttpConfig"

/-- What a value without parts is called. Dates and times are presented as tables. -/
def Scalar.kind : Scalar → String
  | .string text => "string " ++ Text.quoted text
  | .integer n => "integer `" ++ toString n.toInt ++ "`"
  | .float x => "floating point `" ++ x.text ++ "`"
  | .boolean b => "boolean `" ++ toString b ++ "`"
  | .moment => "map"

/-- What a value is called. -/
def Item.kind : Item → String
  | .scalar _ value => value.kind
  | .array _ _ | .tables _ _ _ => "sequence"
  | .table _ _ _ => "map"

/-- Why a value is not what it should have been. -/
inductive Fault where
  /-- It is of another kind. -/
  | kind (found : String) (wanted : Wanted)
  /-- It is a number out of range. -/
  | range (n : Int64) (wanted : Wanted)
  deriving DecidableEq, Repr

def Fault.message : Fault → String
  | .kind found wanted => s!"invalid type: {found}, expected {wanted.text}"
  | .range n wanted =>
    "invalid value: integer `" ++ toString n.toInt ++ "`, expected " ++ wanted.text

/-- A value that is not what it should have been. -/
structure Mismatch where
  fault : Fault
  span : Span
  deriving DecidableEq, Repr

def Mismatch.message (m : Mismatch) : String := m.fault.message

/-! ## Excerpts -/

/-- The line in which so many bytes are left: its number, how many characters stand
before that place, and the line. `before` holds the characters since the start of the
line, the last one first. Lines count from one. -/
def lineAt (left number : Nat) (before : List Char) : List Char → Nat × Nat × List Char
  | [] => (number, before.length, before.reverse)
  | c :: rest =>
    if left < size (c :: rest) then
      if c = '\n' then lineAt left (number + 1) [] rest
      else lineAt left number (c :: before) rest
    else (number, before.length, before.reverse ++ (c :: rest).takeWhile (· ≠ '\n'))

/-- A mismatch with the line of the document that it is about, its value marked. -/
def Mismatch.excerpt (m : Mismatch) (document : String) : String :=
  let (number, column, line) := lineAt m.span.startLeft 1 [] document.toList
  let gutter := String.ofList (List.replicate ((toString number).length + 1) ' ') ++ "|"
  let length := min (m.span.startLeft - m.span.stopLeft) (size line - column)
  let marks := String.ofList (List.replicate (column + 1) ' ' ++ List.replicate (max 1 length) '^')
  s!"TOML parse error at line {number}, column {column + 1}\n"
    ++ gutter ++ "\n"
    ++ s!"{number} | " ++ String.ofList line ++ "\n"
    ++ gutter ++ marks ++ "\n"
    ++ m.message ++ "\n"

end VectorFetch.Toml

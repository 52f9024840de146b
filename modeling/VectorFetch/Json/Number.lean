/-!
# JSON number literals

A number is kept as the text it was written with. Only the exponent is spelled
anew: its letter becomes `e`, and a missing sign becomes `+`.

* `Number.Phase`, `Number.Phase.move`: the literal, one character at a time.
* `Number.Scan`: what has been written so far and in which phase.
* `Number.ofText`: reads a whole text as one literal.
-/

namespace VectorFetch.Json.Number

/-! ## One character at a time -/

/-- How far into a literal a reader is. -/
inductive Phase where
  /-- After the minus sign. -/
  | minus
  /-- After a leading zero, which no digit may follow. -/
  | zero
  /-- Within the digits before the point. -/
  | integer
  /-- After the point. -/
  | point
  /-- Within the digits after the point. -/
  | fraction
  /-- After the exponent's letter. -/
  | mark
  /-- After the exponent's sign. -/
  | sign
  /-- Within the exponent's digits. -/
  | exponent
  deriving DecidableEq, Repr

/-- What a character does to a literal. -/
inductive Move where
  /-- It belongs to the literal and is written as these characters. -/
  | extend (written : List Char) (next : Phase)
  /-- It lies behind a complete literal. -/
  | leave
  /-- It cannot stand here. `used` says whether the reader has passed it. -/
  | refuse (used : Bool)
  deriving DecidableEq, Repr

/-- The part of a literal that every digit may be followed by. -/
def afterInteger (c : Char) : Move :=
  if c = '.' then .extend ['.'] .point
  else if c = 'e' ∨ c = 'E' then .extend ['e'] .mark
  else .leave

/-- The phase in which a literal begins with this character. -/
def begin? (c : Char) : Option Phase :=
  if c = '-' then some .minus
  else if c = '0' then some .zero
  else if c.isDigit then some .integer
  else none

/-- One character of a literal. -/
def Phase.move (phase : Phase) (c : Char) : Move :=
  match phase with
  | .minus =>
    if c = '0' then .extend [c] .zero
    else if c.isDigit then .extend [c] .integer
    else .refuse true
  | .zero => if c.isDigit then .refuse false else afterInteger c
  | .integer => if c.isDigit then .extend [c] .integer else afterInteger c
  | .point => if c.isDigit then .extend [c] .fraction else .refuse false
  | .fraction =>
    if c.isDigit then .extend [c] .fraction
    else if c = 'e' ∨ c = 'E' then .extend ['e'] .mark
    else .leave
  | .mark =>
    if c = '+' ∨ c = '-' then .extend [c] .sign
    else if c.isDigit then .extend ['+', c] .exponent
    else .refuse true
  | .sign => if c.isDigit then .extend [c] .exponent else .refuse true
  | .exponent => if c.isDigit then .extend [c] .exponent else .leave

/-- Whether a literal may end in this phase. -/
def Phase.isComplete : Phase → Bool
  | .zero | .integer | .fraction | .exponent => true
  | .minus | .point | .mark | .sign => false

/-! ## A literal under way -/

/-- A literal under way: the characters written, the latest first, and the phase. -/
structure Scan where
  written : List Char
  phase : Phase
  deriving DecidableEq, Repr

/-- The literal that begins with this character. -/
def Scan.begin? (c : Char) : Option Scan :=
  (Number.begin? c).map fun phase => ⟨[c], phase⟩

/-- The literal with more characters written. -/
def Scan.extend (scan : Scan) (more : List Char) (next : Phase) : Scan :=
  ⟨more.reverse ++ scan.written, next⟩

def Scan.text (scan : Scan) : String := String.ofList scan.written.reverse

end VectorFetch.Json.Number

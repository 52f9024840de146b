import VectorFetch.Text.Utf8

/-!
# Faults of JSON documents

* `Position`: a line and a column, as faults report them.
* `Fault`: everything that can be wrong with a document, and its wording.
* `Category`: end of input, wrong grammar, or a well-formed document of the wrong
  shape.
* `Error`: a fault at a position, with its one-line message.
-/

namespace VectorFetch.Json

/-! ## Positions -/

/-- A place in a document: lines count from one, and the column is the number of
bytes since the last line feed. -/
structure Position where
  line : Nat
  column : Nat
  deriving DecidableEq, Repr

def Position.start : Position := ⟨1, 0⟩

/-- The place behind one more byte. -/
def Position.next (p : Position) (b : UInt8) : Position :=
  if b = 10 then ⟨p.line + 1, 0⟩ else ⟨p.line, p.column + 1⟩

/-- The place behind a byte string. -/
def Position.after (p : Position) (bytes : Bytes) : Position := bytes.foldl Position.next p

/-! ## Faults -/

/-- What a value turned out to be where a string was wanted. -/
inductive Found where
  | null
  | bool (value : Bool)
  | number
  | array
  | object
  deriving DecidableEq, Repr

def Found.text : Found → String
  | .null => "null"
  | .bool true => "boolean `true`"
  | .bool false => "boolean `false`"
  | .number => "number"
  | .array => "sequence"
  | .object => "map"

/-- What is wrong with a document. -/
inductive Fault where
  | endOfValue
  | endOfString
  | endOfArray
  | endOfObject
  | expectedColon
  | expectedArrayCommaOrEnd
  | expectedObjectCommaOrEnd
  | expectedWord
  | expectedValue
  | invalidEscape
  | invalidNumber
  | invalidCharacter
  | controlCharacter
  | keyNotString
  | loneSurrogate
  | unexpectedEndOfEscape
  | trailingComma
  | trailingCharacters
  | tooDeep
  /-- The text in place of a number is no number, for this reason. -/
  | numberText (cause : Fault)
  /-- A value of another kind stands where the text of a number belongs. -/
  | numberKind (found : Found)
  deriving DecidableEq, Repr

def Fault.text : Fault → String
  | .endOfValue => "EOF while parsing a value"
  | .endOfString => "EOF while parsing a string"
  | .endOfArray => "EOF while parsing a list"
  | .endOfObject => "EOF while parsing an object"
  | .expectedColon => "expected `:`"
  | .expectedArrayCommaOrEnd => "expected `,` or `]`"
  | .expectedObjectCommaOrEnd => "expected `,` or `\x7d`"
  | .expectedWord => "expected ident"
  | .expectedValue => "expected value"
  | .invalidEscape => "invalid escape"
  | .invalidNumber => "invalid number"
  | .invalidCharacter => "invalid unicode code point"
  | .controlCharacter => "control character (\\u0000-\\u001F) found while parsing a string"
  | .keyNotString => "key must be a string"
  | .loneSurrogate => "lone leading surrogate in hex escape"
  | .unexpectedEndOfEscape => "unexpected end of hex escape"
  | .trailingComma => "trailing comma"
  | .trailingCharacters => "trailing characters"
  | .tooDeep => "recursion limit exceeded"
  | .numberText cause => cause.text
  | .numberKind found => s!"invalid type: {found.text}, expected string containing a number"

/-- The three kinds of fault. -/
inductive Category where
  /-- The document stops too early. -/
  | endOfInput
  /-- The document is not JSON. -/
  | grammar
  /-- The document is JSON of the wrong shape. -/
  | shape
  deriving DecidableEq, Repr

def Fault.category : Fault → Category
  | .endOfValue | .endOfString | .endOfArray | .endOfObject => .endOfInput
  | .numberText _ | .numberKind _ => .shape
  | _ => .grammar

/-! ## Errors -/

/-- A fault and where it shows. -/
structure Error where
  fault : Fault
  position : Position
  deriving DecidableEq, Repr

/-- The message of an error, on one line. -/
def Error.message (e : Error) : String :=
  s!"{e.fault.text} at line {e.position.line} column {e.position.column}"

end VectorFetch.Json

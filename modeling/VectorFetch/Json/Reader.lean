import VectorFetch.Json.Error
import VectorFetch.Json.Number
import VectorFetch.Json.Value
import VectorFetch.Text.Radix

/-!
# Reading JSON documents

A document is read one byte at a time. What has been read so far is a `State`:
the position, the containers that are still open, and the `Mode`, which says what
may come next.

* `State.step`: the state after one more byte, or the fault that this byte shows.
* `State.finish`: the value, if the document may end here.
* `Json.parse`: a whole document.

A fault shows behind the byte that rules the document out, so a prefix of a
document never shows a fault other than that it ends too early.

Three rules go beyond the grammar. Containers nest at most `depthLimit` deep. A
repeated member name keeps its first place. An object whose first member is named
`numberName` stands for a number: its value must be the text of one.
-/

namespace VectorFetch.Json

/-! ## The number marker -/

/-- The name that marks an object as a number when it comes first. -/
def numberName : String := "$serde_json::private::Number"

/-- Reads the rest of a literal that is the whole of a text. -/
def numberRest (scan : Number.Scan) (here : Position) : Bytes → Except Error String
  | [] =>
    if scan.phase.isComplete then .ok scan.text
    else .error ⟨.numberText .endOfValue, here⟩
  | b :: rest =>
    match scan.phase.move (Char.ofUInt8 b) with
    | .extend written next => numberRest (scan.extend written next) (here.next b) rest
    | .leave | .refuse false => .error ⟨.numberText .invalidNumber, here.next b⟩
    | .refuse true =>
      .error ⟨.numberText .invalidNumber, (here.next b).after (rest.take 1)⟩

/-- Reads a text that must be one number literal. Its faults have positions of their
own, counted from the start of the text. -/
def numberOfText (s : String) : Except Error String :=
  match Utf8.encode s with
  | [] => .error ⟨.numberText .endOfValue, .start⟩
  | b :: rest =>
    match Number.Scan.begin? (Char.ofUInt8 b) with
    | some scan => numberRest scan (Position.start.next b) rest
    | none => .error ⟨.numberText .invalidNumber, Position.start.next b⟩

/-! ## States -/

/-- How deep containers may nest. -/
def depthLimit : Nat := 127

/-- A container that is open around the current value. -/
inductive Frame where
  /-- An array with the items before the current one, the latest first. -/
  | array (items : List Value)
  /-- An object with the members before the current one, and the current name. -/
  | object (members : Members) (name : String)

/-- How far into an escape a string is. -/
inductive Escape where
  /-- Not in an escape. -/
  | outside
  /-- After the backslash. -/
  | start
  /-- Within the four digits, the latest first. -/
  | digits (read : Bytes)
  /-- Behind the first half of a surrogate pair, before the backslash. -/
  | lowStart (high : Nat)
  /-- Behind the first half of a surrogate pair, after the backslash. -/
  | lowMark (high : Nat)
  /-- Within the four digits of the second half, the latest first. -/
  | lowDigits (high : Nat) (read : Bytes)

/-- What a string is read for. -/
inductive Purpose where
  /-- It is a value. -/
  | value
  /-- It is the name of the next member. -/
  | name (members : Members)
  /-- It is the text of a number. -/
  | number

/-- What may come next. -/
inductive Mode where
  /-- A value. -/
  | value
  /-- The first item of an array, or its end. -/
  | firstItem
  /-- The next item of an array. -/
  | nextItem (items : List Value)
  /-- A comma, or the end of an array. -/
  | afterItem (items : List Value)
  /-- The first member of an object, or its end. -/
  | firstMember
  /-- The next member of an object. -/
  | nextMember (members : Members)
  /-- The colon behind a name. -/
  | afterName (members : Members) (name : String)
  /-- A comma, or the end of an object. -/
  | afterMember (members : Members)
  /-- The rest of `true`, `false` or `null`. -/
  | word (next : Char) (rest : List Char) (value : Value)
  /-- More of a number. -/
  | number (scan : Number.Scan)
  /-- More of a string, whose bytes are held with the latest first. -/
  | string (purpose : Purpose) (read : Bytes) (escape : Escape)
  /-- The colon behind the number marker's name. -/
  | afterMarker
  /-- The text of a number. -/
  | markedValue
  /-- The rest of a word where the text of a number belongs. -/
  | markedWord (next : Char) (rest : List Char) (found : Found)
  /-- More of a number where the text of a number belongs. -/
  | markedNumber (scan : Number.Scan)
  /-- The end of an object that stands for a number. -/
  | afterMarkedValue (text : String)
  /-- Nothing but white space. -/
  | done (value : Value)

/-- What has been read so far. -/
structure State where
  position : Position
  /-- The containers around the current one, the innermost first. -/
  frames : List Frame
  mode : Mode

/-- Before the first byte. -/
def State.start : State := ⟨.start, [], .value⟩

/-- Where a complete value leads. -/
def complete (value : Value) : List Frame → List Frame × Mode
  | [] => ([], .done value)
  | .array items :: frames => (frames, .afterItem (value :: items))
  | .object members name :: frames => (frames, .afterMember (members.insert name value))

/-! ## Steps -/

/-- White space between tokens. -/
def isBlank (c : Char) : Bool := c = ' ' || c = '\t' || c = '\n' || c = '\r'

/-- The first byte of a value. -/
def beginValue (frames : List Frame) (c : Char) : Except Fault (List Frame × Mode) :=
  match c with
  | 'n' => .ok (frames, .word 'u' ['l', 'l'] .null)
  | 't' => .ok (frames, .word 'r' ['u', 'e'] (.bool true))
  | 'f' => .ok (frames, .word 'a' ['l', 's', 'e'] (.bool false))
  | '"' => .ok (frames, .string .value [] .outside)
  | '[' => if frames.length < depthLimit then .ok (frames, .firstItem) else .error .tooDeep
  | '{' => if frames.length < depthLimit then .ok (frames, .firstMember) else .error .tooDeep
  | _ =>
    match Number.Scan.begin? c with
    | some scan => .ok (frames, .number scan)
    | none => .error .expectedValue

/-- A byte behind a complete value. -/
def afterValue (frames : List Frame) (mode : Mode) (c : Char) :
    Except Fault (List Frame × Mode) :=
  match mode with
  | .afterItem items =>
    if isBlank c then .ok (frames, mode)
    else if c = ',' then .ok (frames, .nextItem items)
    else if c = ']' then .ok (complete (.array items.reverse) frames)
    else .error .expectedArrayCommaOrEnd
  | .afterMember members =>
    if isBlank c then .ok (frames, mode)
    else if c = ',' then .ok (frames, .nextMember members)
    else if c = '}' then .ok (complete (.object members) frames)
    else .error .expectedObjectCommaOrEnd
  | _ => if isBlank c then .ok (frames, mode) else .error .trailingCharacters

/-- The first byte of the text of a number. -/
def beginMarked (frames : List Frame) (c : Char) : Except Fault (List Frame × Mode) :=
  match c with
  | 'n' => .ok (frames, .markedWord 'u' ['l', 'l'] .null)
  | 't' => .ok (frames, .markedWord 'r' ['u', 'e'] (.bool true))
  | 'f' => .ok (frames, .markedWord 'a' ['l', 's', 'e'] (.bool false))
  | '"' => .ok (frames, .string .number [] .outside)
  | _ =>
    match Number.Scan.begin? c with
    | some scan => .ok (frames, .markedNumber scan)
    | none => .error .expectedValue

/-! ### Strings -/

/-- The value of four hexadecimal digits of either case. -/
def hexValue? (digits : List Char) : Option Nat :=
  digits.foldl (fun value c => do
    let v ← value
    let d ← Radix.digit? 16 c
    some (16 * v + d)) (some 0)

/-- The value of the digits of an escape, the latest first. -/
def escapeValue? (read : Bytes) : Option Nat := hexValue? (read.reverse.map Char.ofUInt8)

/-- The byte that a one-letter escape stands for. -/
def escapedByte? (c : Char) : Option UInt8 :=
  match c with
  | '"' => some 0x22
  | '\\' => some 0x5C
  | '/' => some 0x2F
  | 'b' => some 0x08
  | 'f' => some 0x0C
  | 'n' => some 0x0A
  | 'r' => some 0x0D
  | 't' => some 0x09
  | _ => none

/-- Adds the bytes of a character to those read so far. -/
def pushChar (read : Bytes) (code : Nat) : Bytes :=
  (String.utf8EncodeChar (Char.ofNat code)).reverse ++ read

/-- One more byte inside a string, the closing quote apart. -/
def Escape.step (escape : Escape) (read : Bytes) (b : UInt8) :
    Except Fault (Bytes × Escape) :=
  let c := Char.ofUInt8 b
  match escape with
  | .outside =>
    if c = '\\' then .ok (read, .start)
    else if b < 0x20 then .error .controlCharacter
    else .ok (b :: read, .outside)
  | .start =>
    if c = 'u' then .ok (read, .digits [])
    else
      match escapedByte? c with
      | some byte => .ok (byte :: read, .outside)
      | none => .error .invalidEscape
  | .digits seen =>
    if seen.length < 3 then .ok (read, .digits (b :: seen))
    else
      match escapeValue? (b :: seen) with
      | none => .error .invalidEscape
      | some code =>
        if 0xDC00 ≤ code ∧ code ≤ 0xDFFF then .error .loneSurrogate
        else if 0xD800 ≤ code ∧ code ≤ 0xDBFF then .ok (read, .lowStart code)
        else .ok (pushChar read code, .outside)
  | .lowStart high =>
    if c = '\\' then .ok (read, .lowMark high) else .error .unexpectedEndOfEscape
  | .lowMark high =>
    if c = 'u' then .ok (read, .lowDigits high []) else .error .unexpectedEndOfEscape
  | .lowDigits high seen =>
    if seen.length < 3 then .ok (read, .lowDigits high (b :: seen))
    else
      match escapeValue? (b :: seen) with
      | none => .error .invalidEscape
      | some low =>
        if 0xDC00 ≤ low ∧ low ≤ 0xDFFF then
          .ok (pushChar read (0x10000 + (high - 0xD800) * 0x400 + (low - 0xDC00)), .outside)
        else .error .loneSurrogate

/-- What a complete string leads to. `behind` is the position behind its closing
quote. -/
def endString (frames : List Frame) (purpose : Purpose) (read : Bytes) (behind : Position) :
    Except Error (List Frame × Mode) :=
  match Utf8.decode read.reverse with
  | .error wellFormed =>
    .error ⟨.invalidCharacter, ⟨behind.line, behind.column - (read.length - wellFormed)⟩⟩
  | .ok chars =>
    let text := String.ofList chars
    match purpose with
    | .value => .ok (complete (.string text) frames)
    | .name members =>
      if members.isEmpty && text == numberName then .ok (frames, .afterMarker)
      else .ok (frames, .afterName members text)
    | .number =>
      match numberOfText text with
      | .ok number => .ok (frames, .afterMarkedValue number)
      | .error e => .error e

/-! ### All modes -/

/-- One more byte, where the fault shows behind it. -/
def stepToken (frames : List Frame) (mode : Mode) (c : Char) :
    Except Fault (List Frame × Mode) :=
  match mode with
  | .value => if isBlank c then .ok (frames, mode) else beginValue frames c
  | .firstItem =>
    if isBlank c then .ok (frames, mode)
    else if c = ']' then .ok (complete (.array []) frames)
    else beginValue (.array [] :: frames) c
  | .nextItem items =>
    if isBlank c then .ok (frames, mode)
    else if c = ']' then .error .trailingComma
    else beginValue (.array items :: frames) c
  | .firstMember =>
    if isBlank c then .ok (frames, mode)
    else if c = '}' then .ok (complete (.object []) frames)
    else if c = '"' then .ok (frames, .string (.name []) [] .outside)
    else .error .keyNotString
  | .nextMember members =>
    if isBlank c then .ok (frames, mode)
    else if c = '}' then .error .trailingComma
    else if c = '"' then .ok (frames, .string (.name members) [] .outside)
    else .error .keyNotString
  | .afterName members name =>
    if isBlank c then .ok (frames, mode)
    else if c = ':' then .ok (.object members name :: frames, .value)
    else .error .expectedColon
  | .word next rest value =>
    if c = next then
      match rest with
      | [] => .ok (complete value frames)
      | next :: rest => .ok (frames, .word next rest value)
    else .error .expectedWord
  | .number scan =>
    match scan.phase.move c with
    | .extend written next => .ok (frames, .number (scan.extend written next))
    | .refuse _ => .error .invalidNumber
    | .leave =>
      let (frames, mode) := complete (.number scan.text) frames
      afterValue frames mode c
  | .afterMarker =>
    if isBlank c then .ok (frames, mode)
    else if c = ':' then .ok (frames, .markedValue)
    else .error .expectedColon
  | .markedValue => if isBlank c then .ok (frames, mode) else beginMarked frames c
  | .markedWord next rest found =>
    if c = next then
      match rest with
      | [] => .error (.numberKind found)
      | next :: rest => .ok (frames, .markedWord next rest found)
    else .error .expectedWord
  | .markedNumber scan =>
    match scan.phase.move c with
    | .extend written next => .ok (frames, .markedNumber (scan.extend written next))
    | .refuse _ => .error .invalidNumber
    | .leave => .error (.numberKind .number)
  | .afterMarkedValue text =>
    if isBlank c then .ok (frames, mode)
    else if c = '}' then .ok (complete (.number text) frames)
    else if c = ',' then .error .trailingComma
    else .error .trailingCharacters
  | .afterItem _ | .afterMember _ | .done _ => afterValue frames mode c
  | .string purpose read escape => .ok (frames, .string purpose read escape)

/-- Whether a byte shows its fault before and not behind itself: a container, or
the byte behind a number, where the text of a number belongs. -/
def faultBefore (mode : Mode) (c : Char) : Option Fault :=
  match mode with
  | .markedValue =>
    if c = '[' then some (.numberKind .array)
    else if c = '{' then some (.numberKind .object)
    else none
  | .markedNumber scan =>
    match scan.phase.move c with
    | .leave => some (.numberKind .number)
    | _ => none
  | _ => none

/-- One more byte. -/
def State.step (s : State) (b : UInt8) : Except Error State :=
  let behind := s.position.next b
  let c := Char.ofUInt8 b
  match faultBefore s.mode c with
  | some fault => .error ⟨fault, s.position⟩
  | none =>
    match s.mode with
    | .string purpose read escape =>
      match escape, c with
      | .outside, '"' =>
        match endString s.frames purpose read behind with
        | .ok (frames, mode) => .ok ⟨behind, frames, mode⟩
        | .error e => .error e
      | _, _ =>
        match escape.step read b with
        | .ok (read, escape) => .ok ⟨behind, s.frames, .string purpose read escape⟩
        | .error fault => .error ⟨fault, behind⟩
    | mode =>
      match stepToken s.frames mode c with
      | .ok (frames, mode) => .ok ⟨behind, frames, mode⟩
      | .error fault => .error ⟨fault, behind⟩

/-- Byte after byte. -/
def State.run (s : State) : Bytes → Except Error State
  | [] => .ok s
  | b :: rest =>
    match s.step b with
    | .ok next => next.run rest
    | .error e => .error e

/-! ## The end of the document -/

/-- The value, if the document may end in this mode. -/
def Mode.finish : Mode → Except Fault Value
  | .done v => .ok v
  | .firstItem | .afterItem _ => .error .endOfArray
  | .firstMember | .afterMember _ | .afterName _ _ | .afterMarker | .afterMarkedValue _ =>
    .error .endOfObject
  | .string _ _ _ => .error .endOfString
  | .markedNumber scan =>
    if scan.phase.isComplete then .error (.numberKind .number) else .error .endOfValue
  | .value | .nextItem _ | .nextMember _ | .word _ _ _ | .number _ | .markedValue
  | .markedWord _ _ _ => .error .endOfValue

/-- The value, if the document may end here. A number ends with the document. -/
def State.finish (s : State) : Except Error Value :=
  let mode :=
    match s.mode with
    | .number scan =>
      if scan.phase.isComplete then (complete (.number scan.text) s.frames).2 else s.mode
    | mode => mode
  match mode.finish with
  | .ok value => .ok value
  | .error fault => .error ⟨fault, s.position⟩

def parse (document : Bytes) : Except Error Value :=
  match State.start.run document with
  | .ok s => s.finish
  | .error e => .error e

end VectorFetch.Json

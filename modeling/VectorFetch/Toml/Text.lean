import VectorFetch.Text.Radix
import VectorFetch.Toml.Blank

/-!
# Strings in TOML

A string stands between double quotes, with escapes, or between apostrophes, without.
Three of them enclose a string that may go over several lines.

* `lineString?`: a string within a line.
* `string?`: any string.

Each reader answers with the text behind the string.
-/

namespace VectorFetch.Toml

/-! ## Escapes -/

/-- The character that a short escape stands for. -/
def shortEscape? (c : Char) : Option Char :=
  if c = 'b' then some '\x08'
  else if c = 't' then some '\t'
  else if c = 'n' then some '\n'
  else if c = 'f' then some '\x0c'
  else if c = 'r' then some '\r'
  else if c = '"' then some '"'
  else if c = '\\' then some '\\'
  else none

/-- How many digits a numeric escape has. -/
def escapeDigits? (c : Char) : Option Nat :=
  if c = 'u' then some 4 else if c = 'U' then some 8 else none

/-- The character of a number. Surrogates are no characters. -/
def scalar? (n : Nat) : Option Char := if n.isValidChar then some (Char.ofNat n) else none

/-- The state of a reader within a string. -/
inductive Escape where
  /-- Outside of escapes. -/
  | outside
  /-- Behind a backslash. -/
  | opened
  /-- Within a numeric escape: so many digits are missing, and the number so far. -/
  | digits (missing value : Nat)
  /-- Behind a backslash and blanks, which a line break has to follow. -/
  | gap
  /-- Behind such a line break: blanks and line breaks do not count. -/
  | skipping
  deriving DecidableEq, Repr

/-! ## Strings within a line -/

/-- The rest of a string with escapes; `acc` holds the characters so far, the last one
first. -/
def basicFrom (acc : List Char) : Escape → List Char → Option (String × List Char)
  | _, [] => none
  | .opened, c :: rest =>
    match shortEscape? c with
    | some x => basicFrom (x :: acc) .outside rest
    | none =>
      match escapeDigits? c with
      | some n => basicFrom acc (.digits n 0) rest
      | none => none
  | .digits missing value, c :: rest =>
    match Radix.digit? 16 c with
    | none => none
    | some d =>
      if 1 < missing then basicFrom acc (.digits (missing - 1) (16 * value + d)) rest
      else
        match scalar? (16 * value + d) with
        | some x => basicFrom (x :: acc) .outside rest
        | none => none
  | _, c :: rest =>
    if c = '"' then some (String.ofList acc.reverse, rest)
    else if c = '\\' then basicFrom acc .opened rest
    else if isPlain c then basicFrom (c :: acc) .outside rest
    else none

/-- The rest of a string without escapes. -/
def literal? (s : List Char) : Option (String × List Char) :=
  match s.dropWhile fun c => isPlain c && c ≠ '\'' with
  | '\'' :: rest => some (String.ofList (s.takeWhile fun c => isPlain c && c ≠ '\''), rest)
  | _ => none

def lineString? : List Char → Option (String × List Char)
  | '"' :: rest => basicFrom [] .outside rest
  | '\'' :: rest => literal? rest
  | _ => none

/-! ## Strings over several lines -/

/-- The end of a string behind three of the marks that enclose it. Up to two more of
them belong to the string. -/
def closing (mark : Char) (acc : List Char) : List Char → String × List Char
  | a :: b :: rest =>
    if a = mark then
      if b = mark then (String.ofList (mark :: mark :: acc).reverse, rest)
      else (String.ofList (mark :: acc).reverse, b :: rest)
    else (String.ofList acc.reverse, a :: b :: rest)
  | [a] =>
    if a = mark then (String.ofList (mark :: acc).reverse, [])
    else (String.ofList acc.reverse, [a])
  | [] => (String.ofList acc.reverse, [])

/-- The text behind two more marks. -/
def twoMore? (mark : Char) : List Char → Option (List Char)
  | a :: b :: rest => if a = mark && b = mark then some rest else none
  | _ => none

/-- The rest of a string with escapes that may go over several lines. -/
def longBasicFrom (acc : List Char) : Escape → List Char → Option (String × List Char)
  | _, [] => none
  | .digits missing value, c :: rest =>
    match Radix.digit? 16 c with
    | none => none
    | some d =>
      if 1 < missing then longBasicFrom acc (.digits (missing - 1) (16 * value + d)) rest
      else
        match scalar? (16 * value + d) with
        | some x => longBasicFrom (x :: acc) .outside rest
        | none => none
  | state, '\r' :: rest =>
    match rest with
    | '\n' :: rest =>
      if state = .outside then longBasicFrom ('\n' :: acc) .outside rest
      else longBasicFrom acc .skipping rest
    | _ => none
  | .opened, c :: rest =>
    if isBlank c then longBasicFrom acc .gap rest
    else if c = '\n' then longBasicFrom acc .skipping rest
    else
      match shortEscape? c with
      | some x => longBasicFrom (x :: acc) .outside rest
      | none =>
        match escapeDigits? c with
        | some n => longBasicFrom acc (.digits n 0) rest
        | none => none
  | .gap, c :: rest =>
    if isBlank c then longBasicFrom acc .gap rest
    else if c = '\n' then longBasicFrom acc .skipping rest
    else none
  | state, c :: rest =>
    if state = .skipping && (isBlank c || c = '\n') then longBasicFrom acc .skipping rest
    else if c = '"' then
      match twoMore? '"' rest with
      | some rest => some (closing '"' acc rest)
      | none => longBasicFrom ('"' :: acc) .outside rest
    else if c = '\\' then longBasicFrom acc .opened rest
    else if c = '\n' || isPlain c then longBasicFrom (c :: acc) .outside rest
    else none

/-- The rest of a string without escapes that may go over several lines. -/
def longLiteralFrom (acc : List Char) : List Char → Option (String × List Char)
  | [] => none
  | '\r' :: rest =>
    match rest with
    | '\n' :: rest => longLiteralFrom ('\n' :: acc) rest
    | _ => none
  | c :: rest =>
    if c = '\'' then
      match twoMore? '\'' rest with
      | some rest => some (closing '\'' acc rest)
      | none => longLiteralFrom ('\'' :: acc) rest
    else if c = '\n' || isPlain c then longLiteralFrom (c :: acc) rest
    else none

/-- The text behind a line break, which may be missing. -/
def skipNewline (s : List Char) : List Char := (newline? s).getD s

/-- Any string. A line break at the start of one over several lines does not count. -/
def string? : List Char → Option (String × List Char)
  | '"' :: '"' :: '"' :: rest => longBasicFrom [] .outside (skipNewline rest)
  | '\'' :: '\'' :: '\'' :: rest => longLiteralFrom [] (skipNewline rest)
  | s => lineString? s

end VectorFetch.Toml

import VectorFetch.Toml.Item

/-!
# Numbers in TOML

* `moreDigits?`: digits with single underscores between them.
* `decimalDigits?`, `radix?`: the digits of an integer, and the integers in other
  notations than the decimal one.
* `exponent?`, `fraction?`: what makes a number a float.
* `number?`: any number.

Each reader answers with the text behind what it has read.
-/

namespace VectorFetch.Toml

/-! ## Digits -/

/-- The number of a digit of any notation. -/
def digitValue (c : Char) : Nat :=
  if c ≤ '9' then c.toNat - 48 else if c ≤ 'F' then c.toNat - 55 else c.toNat - 87

/-- The number of a list of digits. -/
def digitsValue (base : Nat) (digits : List Char) : Nat :=
  digits.foldl (fun n c => base * n + digitValue c) 0

def isDecimal (c : Char) : Bool := '0' ≤ c && c ≤ '9'

def isHexadecimal (c : Char) : Bool :=
  isDecimal c || ('a' ≤ c && c ≤ 'f') || ('A' ≤ c && c ≤ 'F')

/-- The digits behind a digit. An underscore has to stand between two of them. -/
def moreDigits? (isDigit : Char → Bool) : List Char → Option (List Char × List Char)
  | [] => some ([], [])
  | c :: rest =>
    if isDigit c then (moreDigits? isDigit rest).map fun (digits, rest) => (c :: digits, rest)
    else if c = '_' then
      match rest with
      | d :: rest =>
        if isDigit d then (moreDigits? isDigit rest).map fun (digits, rest) => (d :: digits, rest)
        else none
      | [] => none
    else some ([], c :: rest)

/-- One digit and those behind it. -/
def digits? (isDigit : Char → Bool) : List Char → Option (List Char × List Char)
  | [] => none
  | c :: rest =>
    if isDigit c then (moreDigits? isDigit rest).map fun (digits, rest) => (c :: digits, rest)
    else none

/-- The digits of a decimal integer: zero alone, or digits that do not start with it. -/
def decimalDigits? : List Char → Option (List Char × List Char)
  | '0' :: rest => some (['0'], rest)
  | s => digits? isDecimal s

/-! ## Integers -/

def integer? (n : Int) : Option Scalar :=
  if Int64.minValue.toInt ≤ n ∧ n ≤ Int64.maxValue.toInt then some (.integer (Int64.ofInt n))
  else none

/-- The digits of an integer in another notation, and that notation's base. -/
def radix? : List Char → Option (Nat × List Char × List Char)
  | '0' :: 'x' :: rest => (digits? isHexadecimal rest).map fun r => (16, r)
  | '0' :: 'o' :: rest => (digits? (fun c => '0' ≤ c && c ≤ '7') rest).map fun r => (8, r)
  | '0' :: 'b' :: rest => (digits? (fun c => c = '0' || c = '1') rest).map fun r => (2, r)
  | _ => none

/-! ## Floats -/

/-- A sign. Without one the number is not negative. -/
def sign : List Char → Bool × List Char
  | '-' :: rest => (true, rest)
  | '+' :: rest => (false, rest)
  | s => (false, s)

/-- The exponent of a number, which may be missing. -/
def exponent? : List Char → Option (Int × List Char)
  | [] => some (0, [])
  | c :: rest =>
    if c = 'e' || c = 'E' then
      let (negative, rest) := sign rest
      (digits? isDecimal rest).map fun (digits, rest) =>
        let n : Int := digitsValue 10 digits
        (if negative then -n else n, rest)
    else some (0, c :: rest)

/-- A number of double precision, if it is not too large. -/
def float? (negative : Bool) (digits : List Char) (exponent : Int) : Option Scalar :=
  let x := Double.ofDecimal negative (digitsValue 10 digits) exponent
  if x = .infinite false then none else some (.float x)

/-- The number behind its sign and its first digits. -/
def numberFrom? (negative : Bool) (digits : List Char) (s : List Char) :
    Option (Scalar × List Char) :=
  match s with
  | '.' :: rest =>
    match digits? isDecimal rest with
    | none => none
    | some (places, rest) =>
      match exponent? rest with
      | none => none
      | some (exponent, rest) =>
        (float? negative (digits ++ places) (exponent - places.length)).map fun x => (x, rest)
  | s =>
    if s.head?.any fun c => c = 'e' || c = 'E' then
      match exponent? s with
      | none => none
      | some (exponent, rest) => (float? negative digits exponent).map fun x => (x, rest)
    else
      let n : Int := digitsValue 10 digits
      (integer? (if negative then -n else n)).map fun x => (x, s)

/-- A number that is not finite, or none. -/
def special? (negative : Bool) : List Char → Option (Scalar × List Char)
  | 'i' :: 'n' :: 'f' :: rest => some (.float (.infinite negative), rest)
  | 'n' :: 'a' :: 'n' :: rest => some (.float .nan, rest)
  | _ => none

/-! ## Numbers -/

def unsigned? (negative : Bool) (s : List Char) : Option (Scalar × List Char) :=
  match decimalDigits? s with
  | some (digits, rest) => numberFrom? negative digits rest
  | none => special? negative s

/-- Whether a text starts an integer that is not decimal. -/
def startsRadix : List Char → Bool
  | '0' :: c :: _ => c = 'x' || c = 'o' || c = 'b'
  | _ => false

def number? (s : List Char) : Option (Scalar × List Char) :=
  if startsRadix s then
    match radix? s with
    | none => none
    | some (base, digits, rest) => (integer? (digitsValue base digits)).map fun x => (x, rest)
  else
    let (negative, rest) := sign s
    unsigned? negative rest

end VectorFetch.Toml

import VectorFetch.Toml.Number

/-!
# Dates and times in TOML

`moment?` reads a date, a time, or both, and answers with the text behind it. Only that
it is one matters, so its value is not kept.
-/

namespace VectorFetch.Toml

/-- A number of so many digits. -/
def fixedDigits? : Nat → List Char → Option (List Char × List Char)
  | 0, s => some ([], s)
  | n + 1, c :: rest =>
    if isDecimal c then (fixedDigits? n rest).map fun (digits, rest) => (c :: digits, rest)
    else none
  | _ + 1, [] => none

/-- A number of two digits between two bounds. -/
def twoDigits? (low high : Nat) (s : List Char) : Option (Nat × List Char) :=
  match fixedDigits? 2 s with
  | none => none
  | some (digits, rest) =>
    let n := digitsValue 10 digits
    if low ≤ n ∧ n ≤ high then some (n, rest) else none

/-- The text behind a character. -/
def skip? (c : Char) : List Char → Option (List Char)
  | [] => none
  | d :: rest => if d = c then some rest else none

/-! ## Dates -/

/-- Whether a year has a day more. -/
def isLeap (year : Nat) : Bool := year % 4 = 0 && (year % 100 ≠ 0 || year % 400 = 0)

/-- How many days a month has. -/
def daysIn (year month : Nat) : Nat :=
  if month = 2 then (if isLeap year then 29 else 28)
  else if month = 4 || month = 6 || month = 9 || month = 11 then 30
  else 31

def date? (s : List Char) : Option (List Char) := do
  let (year, s) ← fixedDigits? 4 s
  let s ← skip? '-' s
  let (month, s) ← twoDigits? 1 12 s
  let s ← skip? '-' s
  let (_, s) ← twoDigits? 1 (daysIn (digitsValue 10 year) month) s
  return s

/-! ## Times -/

/-- The text behind a part of a second, which may be missing. -/
def skipFraction (s : List Char) : List Char :=
  match s with
  | '.' :: c :: rest => if isDecimal c then rest.dropWhile isDecimal else s
  | s => s

def time? (s : List Char) : Option (List Char) := do
  let (_, s) ← twoDigits? 0 23 s
  let s ← skip? ':' s
  let (_, s) ← twoDigits? 0 59 s
  let s ← skip? ':' s
  let (_, s) ← twoDigits? 0 60 s
  return skipFraction s

/-- The text behind a difference to universal time, which may be missing. -/
def offset? (s : List Char) : Option (List Char) :=
  match s with
  | [] => some []
  | c :: rest =>
    if c = 'Z' || c = 'z' then some rest
    else if c = '+' || c = '-' then do
      let (_, s) ← twoDigits? 0 23 rest
      let s ← skip? ':' s
      let (_, s) ← twoDigits? 0 59 s
      return s
    else some s

/-! ## Both -/

/-- The text behind a time that follows a date, which may be missing. -/
def timeBehindDate? (s : List Char) : Option (List Char) :=
  match s with
  | [] => some []
  | c :: rest =>
    if c = 'T' || c = 't' || c = ' ' then
      match time? rest with
      | some rest => offset? rest
      | none => some s
    else some s

/-- A date, a time, or both. -/
def moment? (s : List Char) : Option (List Char) :=
  match date? s with
  | some rest => timeBehindDate? rest
  | none => time? s

end VectorFetch.Toml

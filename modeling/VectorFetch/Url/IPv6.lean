import VectorFetch.Url.IPv4

/-!
# IPv6 addresses in URLs

Eight pieces of sixteen bits. `::` stands for one or more zero pieces, and the last
two pieces may be written as the four decimal parts of an IPv4 address.

* `IPv6.parse?`: reads the text between the brackets.
* `IPv6.text`: lowercase hexadecimal pieces; the first of the longest runs of two or
  more zero pieces is written as `::`.
-/

namespace VectorFetch.Url

/-- An IPv6 address by its pieces. -/
structure IPv6 where
  pieces : List UInt16
  length_eq : pieces.length = 8
  deriving DecidableEq, Repr

namespace IPv6

/-! ## Reading -/

/-- A piece of one to four hexadecimal digits. -/
def piece? (s : List Char) : Option UInt16 :=
  if s.isEmpty || 4 < s.length then none else (IPv4.digits? 16 s).map UInt16.ofNat

/-- A decimal part up to 255 without a leading zero. -/
def decimalByte? (s : List Char) : Option Nat :=
  match s with
  | [] => none
  | ['0'] => some 0
  | '0' :: _ => none
  | _ =>
    match IPv4.digits? 10 s with
    | some n => if n < 256 then some n else none
    | none => none

/-- Two pieces written as four decimal parts. -/
def dotted? (s : List Char) : Option (List UInt16) :=
  match (s.splitOn '.').mapM decimalByte? with
  | some [a, b, c, d] => some [UInt16.ofNat (a * 256 + b), UInt16.ofNat (c * 256 + d)]
  | _ => none

/-- The pieces of a list of texts, of which the last one may be dotted. -/
def pieces? : List (List Char) → Option (List UInt16)
  | [] => some []
  | [last] =>
    match dotted? last with
    | some pieces => some pieces
    | none => (piece? last).map fun p => [p]
  | s :: rest =>
    match piece? s, pieces? rest with
    | some p, some ps => some (p :: ps)
    | _, _ => none

/-- The texts between single colons; nothing at all is no text. -/
def fields (s : List Char) : List (List Char) :=
  if s.isEmpty then [] else s.splitOn ':'

/-- What stands before and behind the first `::`. -/
def splitAtGap : List Char → Option (List Char × List Char)
  | ':' :: ':' :: rest => some ([], rest)
  | c :: rest => (splitAtGap rest).map fun (before, behind) => (c :: before, behind)
  | [] => none

/-- Eight pieces make an address. -/
def ofPieces? (pieces : List UInt16) : Option IPv6 :=
  if h : pieces.length = 8 then some ⟨pieces, h⟩ else none

/-- Reads the text between the brackets. -/
def parse? (s : List Char) : Option IPv6 :=
  match splitAtGap s with
  | none =>
    match pieces? (fields s) with
    | some pieces => ofPieces? pieces
    | none => none
  | some (before, behind) =>
    match (fields before).mapM piece?, pieces? (fields behind) with
    | some front, some back =>
      let known := front.length + back.length
      if known < 8 then ofPieces? (front ++ List.replicate (8 - known) 0 ++ back) else none
    | _, _ => none

/-! ## Writing -/

/-- A piece without leading zeros. -/
def pieceText (p : UInt16) : List Char := Nat.toDigits 16 p.toNat

def joinPieces (pieces : List UInt16) : List Char :=
  [':'].intercalate (pieces.map pieceText)

/-- How many zero pieces a list starts with. -/
def leadingZeros (pieces : List UInt16) : Nat := (pieces.takeWhile (· = 0)).length

/-- The start and the length of the first of the longest runs of zero pieces. -/
def longestRun : List UInt16 → Nat × Nat
  | [] => (0, 0)
  | p :: rest =>
    let here := leadingZeros (p :: rest)
    let (start, length) := longestRun rest
    if here < length then (start + 1, length) else (0, here)

/-- The address without brackets. -/
def chars (a : IPv6) : List Char :=
  let (start, length) := longestRun a.pieces
  if length < 2 then joinPieces a.pieces
  else
    joinPieces (a.pieces.take start) ++ [':', ':'] ++ joinPieces (a.pieces.drop (start + length))

/-- The address without brackets, as a text. -/
def text (a : IPv6) : String := String.ofList a.chars

end IPv6

end VectorFetch.Url

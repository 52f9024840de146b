import VectorFetch.Text.Radix

/-!
# IPv4 addresses in URLs

A host whose last label is a number is an IPv4 address. It has one to four parts in
decimal, octal or hexadecimal; the last part fills the bytes that are left.

* `IPv4.number?`: one part.
* `IPv4.endsInNumber`: whether a domain has to be read as an address.
* `IPv4.parse?`, `IPv4.text`: reading, and the dotted form with four decimal parts.
-/

namespace VectorFetch.Url

/-- An IPv4 address as a 32-bit number. -/
structure IPv4 where
  value : UInt32
  deriving DecidableEq, Repr

namespace IPv4

/-! ## Parts -/

/-- The number of a list of digits, if they all are digits of the base. -/
def digits? (base : Nat) (cs : List Char) : Option Nat :=
  cs.foldl (fun read c =>
    match read, Radix.digit? base c with
    | some n, some d => some (n * base + d)
    | _, _ => none) (some 0)

/-- A part of an address: hexadecimal behind `0x`, octal behind another zero, else
decimal. Nothing behind `0x` is zero. -/
def number? : List Char → Option Nat
  | [] => none
  | '0' :: 'x' :: rest => digits? 16 rest
  | '0' :: 'X' :: rest => digits? 16 rest
  | '0' :: c :: rest => digits? 8 (c :: rest)
  | cs => digits? 10 cs

/-- The pieces of a text between the dots. -/
def labels (s : List Char) : List (List Char) := s.splitOn '.'

/-- The last label of a domain, a final dot aside. -/
def lastLabel (s : List Char) : List Char :=
  match (labels s).reverse with
  | [] :: last :: _ => last
  | last :: _ => last
  | [] => []

/-- Whether a domain is written like an address. -/
def endsInNumber (s : List Char) : Bool :=
  let last := lastLabel s
  (!last.isEmpty && last.all (fun c => '0' ≤ c && c ≤ '9')) || (number? last).isSome

/-! ## Addresses -/

/-- The parts of an address, a final dot aside. -/
def parts (s : List Char) : List (List Char) :=
  match (labels s).reverse with
  | [] :: rest => rest.reverse
  | rest => rest.reverse

/-- Puts the numbers of the parts together. All but the last are single bytes, from
the high end; the last one fills what is left. -/
def assemble? (numbers : List Nat) : Option Nat :=
  match numbers with
  | [a] => if a < Nat.pow 256 4 then some a else none
  | [a, b] => if a < 256 ∧ b < Nat.pow 256 3 then some (a * Nat.pow 256 3 + b) else none
  | [a, b, c] =>
    if a < 256 ∧ b < 256 ∧ c < Nat.pow 256 2 then
      some (a * Nat.pow 256 3 + b * Nat.pow 256 2 + c)
    else none
  | [a, b, c, d] =>
    if a < 256 ∧ b < 256 ∧ c < 256 ∧ d < 256 then
      some (a * Nat.pow 256 3 + b * Nat.pow 256 2 + c * 256 + d)
    else none
  | _ => none

def parse? (s : List Char) : Option IPv4 :=
  match (parts s).mapM number? with
  | some numbers => (assemble? numbers).map fun n => ⟨UInt32.ofNat n⟩
  | none => none

/-- The four bytes of an address, the high one first. -/
def bytes (a : IPv4) : List Nat :=
  let n := a.value.toNat
  [n / Nat.pow 256 3, n / Nat.pow 256 2 % 256, n / 256 % 256, n % 256]

def text (a : IPv4) : String := ".".intercalate (a.bytes.map fun n => n.repr)

end IPv4

end VectorFetch.Url

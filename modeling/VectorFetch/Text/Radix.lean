import VectorFetch.Text.Utf8

/-!
# Digits of a base

* `Radix.value?`, `Radix.digit?`: the value of a digit. A letter counts in either case.
* `Radix.byteDigit?`: the same for the byte that a digit is written as.
* `Radix.read`: the number that a text spells in a base, below 256 and with a plus sign at
  most; else a `Radix.Fault`.
-/

namespace VectorFetch.Radix

/-- Why a text spells no number below 256. -/
inductive Fault where
  | empty
  | invalidDigit
  | overflow
  deriving DecidableEq, Repr

/-- The value of a digit, from `0` on and then from `a` or `A` on. -/
def value? (c : Char) : Option Nat :=
  if '0' ≤ c ∧ c ≤ '9' then some (c.toNat - 48)
  else if 'a' ≤ c ∧ c ≤ 'z' then some (c.toNat - 87)
  else if 'A' ≤ c ∧ c ≤ 'Z' then some (c.toNat - 55)
  else none

/-- The value of a digit of a base. -/
def digit? (base : Nat) (c : Char) : Option Nat := (value? c).filter (· < base)

/-- The value of a digit of a base, given as a byte. -/
def byteDigit? (base : Nat) (b : UInt8) : Option Nat := digit? base (Char.ofUInt8 b)

/-- Digits behind those that have given `n`. -/
def readFrom (base n : Nat) : Bytes → Except Fault Nat
  | [] => .ok n
  | b :: rest =>
    match byteDigit? base b with
    | none => .error .invalidDigit
    | some d =>
      if n * base + d < 256 then readFrom base (n * base + d) rest else .error .overflow

/-- The number that a text spells. A plus sign may stand in front of the digits. -/
def read (base : Nat) (text : Bytes) : Except Fault Nat :=
  match text with
  | [] => .error .empty
  | [b] => readFrom base 0 [b]
  | b :: rest => readFrom base 0 (if b = 0x2B then rest else text)

end VectorFetch.Radix

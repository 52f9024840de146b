/-!
# Double precision numbers

A number of double precision is a mantissa below 2^53 times a power of two from 2^-1074
on, with a sign; besides there are the infinities and what is no number.

* `Double.ofDecimal`: the nearest number to a decimal; of two the one with the even
  mantissa.
* `Double.shortest`: the fewest decimal digits that are read as the number.
* `Double.text`: the number in positional notation, with at least one place.

All arithmetic is exact, in natural numbers.
-/

namespace VectorFetch

/-- A number of double precision. -/
inductive Double where
  /-- The mantissa times two to the exponent. -/
  | finite (negative : Bool) (mantissa : Nat) (exponent : Int)
  | infinite (negative : Bool)
  | nan
  deriving DecidableEq, Repr

namespace Double

def leastExponent : Int := -1074

def largestExponent : Int := 971

/-- A power as a fraction: numerator and denominator. -/
def power (base : Nat) : Int → Nat × Nat
  | .ofNat n => (Nat.pow base n, 1)
  | .negSucc n => (1, Nat.pow base (n + 1))

/-- The quotient of two numbers, rounded to the nearest; a half goes to the even one. -/
def roundDiv (n d : Nat) : Nat :=
  let q := n / d
  let r := n % d
  if d < 2 * r || (2 * r = d && q % 2 = 1) then q + 1 else q

/-- The exponent of the largest power of two that is not above a fraction. -/
def floorLog2 (n d : Nat) : Int :=
  let e : Int := (Nat.log2 n : Int) - (Nat.log2 d : Int)
  let (a, b) := power 2 e
  if a * d ≤ n * b then e else e - 1

/-- How many decimal digits a number has. -/
def digitCount (n : Nat) : Nat := (Nat.toDigits 10 n).length

/-! ## Reading -/

/-- The nearest number to a fraction that is not zero. -/
def ofFraction (negative : Bool) (n d : Nat) : Double :=
  let q := max (floorLog2 n d - 52) leastExponent
  let (a, b) := power 2 q
  let m := roundDiv (n * b) (d * a)
  let (m, q) := if m = Nat.pow 2 53 then (Nat.pow 2 52, q + 1) else (m, q)
  if largestExponent < q then .infinite negative else .finite negative m q

/-- The nearest number to `digits` times ten to the `exponent`. -/
def ofDecimal (negative : Bool) (digits : Nat) (exponent : Int) : Double :=
  if digits = 0 then .finite negative 0 leastExponent
  else
    let size : Int := digitCount digits + exponent
    if 400 < size then .infinite negative
    else if size < -400 then .finite negative 0 leastExponent
    else
      let (a, b) := power 10 exponent
      ofFraction negative (digits * a) b

/-! ## Writing -/

/-- The least `k` for which a fraction is below ten to the `k`. -/
def scale (n d : Nat) : Int :=
  let k : Int := (digitCount n : Int) - (digitCount d : Int)
  let (a, b) := power 10 k
  if n * b < d * a then k else k + 1

/-- The decimal with so many digits that is read as the number, if there is one: of the
two around the number the nearer one. -/
def withDigits? (x : Double) (n d : Nat) (k : Int) (count : Nat) : Option (Nat × Int) :=
  let g := k - count
  let (a, b) := power 10 g
  let low := n * b / (d * a)
  let readsBack := fun digits => ofDecimal false digits g = x
  let nearLow := 2 * (n * b) ≤ (2 * low + 1) * (d * a)
  if readsBack low && (nearLow || !readsBack (low + 1)) then some (low, g)
  else if readsBack (low + 1) then some (low + 1, g)
  else none

/-- The first number of digits from `count` on that is enough. -/
def search (x : Double) (n d : Nat) (k : Int) (count : Nat) : Nat → Nat × Int
  | 0 => (n * (power 10 (k - count)).2 / (d * (power 10 (k - count)).1), k - count)
  | fuel + 1 =>
    match withDigits? x n d k count with
    | some decimal => decimal
    | none => search x n d k (count + 1) fuel

/-- The fewest decimal digits that are read as a positive number, and the power of ten
that belongs to them. -/
def shortest (mantissa : Nat) (exponent : Int) : Nat × Int :=
  if mantissa = 0 then (0, 0)
  else
    let (a, b) := power 2 exponent
    let n := mantissa * a
    let (digits, power) := search (.finite false mantissa exponent) n b (scale n b) 1 17
    if digits % 10 = 0 then (digits / 10, power + 1) else (digits, power)

/-- Digits times a power of ten in positional notation, with at least one place. -/
def positional (digits : Nat) (exponent : Int) : List Char :=
  match exponent with
  | .ofNat zeros => Nat.toDigits 10 digits ++ List.replicate zeros '0' ++ ['.', '0']
  | .negSucc n =>
    let places := n + 1
    let written := Nat.toDigits 10 digits
    let padded := List.replicate (places + 1 - written.length) '0' ++ written
    padded.take (padded.length - places) ++ '.' :: padded.drop (padded.length - places)

def text : Double → String
  | .nan => "NaN"
  | .infinite negative => if negative then "-inf" else "inf"
  | .finite negative mantissa exponent =>
    let (digits, power) := shortest mantissa exponent
    (if negative then "-" else "") ++ String.ofList (positional digits power)

end Double

end VectorFetch

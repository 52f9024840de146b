/-!
# Labels in ASCII

A label with characters beyond ASCII is written as its ASCII characters and, behind a
dash, numbers that say where the others go. The others come in increasing order. A number
has as many digits as it needs, and how large the digits may grow depends on the numbers
before it.

* `encode`, `decode?`: a label in ASCII, and back.
* `threshold`, `adapt`: which digit ends a number.
-/

namespace VectorFetch.Url.Domain.Punycode

/-! ## Digits -/

/-- The digit of a number below 36: the letters, then the decimal digits. -/
def digit (n : Nat) : Char := if n < 26 then Char.ofNat (97 + n) else Char.ofNat (22 + n)

def digitValue? (c : Char) : Option Nat :=
  if 'a' ≤ c ∧ c ≤ 'z' then some (c.toNat - 97)
  else if '0' ≤ c ∧ c ≤ '9' then some (c.toNat - 22)
  else none

/-- A digit below the threshold ends a number. -/
def threshold (k bias : Nat) : Nat :=
  if k ≤ bias then 1 else if bias + 26 ≤ k then 26 else k - bias

theorem one_le_threshold (k bias : Nat) : 1 ≤ threshold k bias := by
  unfold threshold
  split
  · omega
  · split <;> omega

theorem threshold_le (k bias : Nat) : threshold k bias ≤ 26 := by
  unfold threshold
  split
  · omega
  · split <;> omega

/-- The bias of a number that has been made small, `k` steps so far. -/
def adaptFrom (delta k : Nat) : Nat :=
  if 455 < delta then adaptFrom (delta / 35) (k + 36) else k + 36 * delta / (delta + 38)
termination_by delta
decreasing_by exact Nat.div_lt_self (by omega) (by omega)

/-- The bias behind a number; `count` characters are known by then. -/
def adapt (delta count : Nat) (isFirst : Bool) : Nat :=
  let delta := if isFirst then delta / 700 else delta / 2
  adaptFrom (delta + delta / count) 0

/-! ## Writing -/

def digits (bias k n : Nat) : List Char :=
  let t := threshold k bias
  if n < t then [digit n]
  else digit (t + (n - t) % (36 - t)) :: digits bias (k + 36) ((n - t) / (36 - t))
termination_by n
decreasing_by
  have h₁ := one_le_threshold k bias
  have h₂ := Nat.div_le_self (n - threshold k bias) (36 - threshold k bias)
  omega

/-- A writer within a label: what it has written, the number that is due, the bias, and
how many characters are known. -/
structure Writer where
  written : List Char
  delta : Nat
  bias : Nat
  count : Nat

/-- Passes a character of the label while those of code point `n` are written. -/
def Writer.pass (n basic : Nat) (w : Writer) (c : Char) : Writer :=
  if c.toNat < n then { w with delta := w.delta + 1 }
  else if c.toNat = n then
    { written := w.written ++ digits w.bias 36 w.delta
      delta := 0
      bias := adapt w.delta (w.count + 1) (w.count = basic)
      count := w.count + 1 }
  else w

/-- The least code point of a label from `n` on. -/
def least? (n : Nat) (label : List Char) : Option Nat :=
  ((label.map Char.toNat).filter (n ≤ ·)).min?

/-- Writes the characters of a label from code point `n` on, at most `fuel` different
ones. -/
def Writer.run (label : List Char) (basic : Nat) : Nat → Nat → Writer → List Char
  | 0, _, w => w.written
  | fuel + 1, n, w =>
    match least? n label with
    | none => w.written
    | some m =>
      let w := { w with delta := w.delta + (m - n) * (w.count + 1) }
      let w := label.foldl (Writer.pass m basic) w
      Writer.run label basic fuel (m + 1) { w with delta := w.delta + 1 }

def encode (label : List Char) : List Char :=
  let basic := label.filter fun c => c.toNat < 0x80
  let start := if basic.isEmpty then [] else basic ++ ['-']
  start ++ Writer.run label basic.length label.length 0x80 ⟨[], 0, 72, basic.length⟩

/-! ## Reading -/

/-- Adds a number to `i`, and answers with the text behind its digits. -/
def readNumber? (bias k weight i : Nat) : List Char → Option (Nat × List Char)
  | [] => none
  | c :: rest =>
    match digitValue? c with
    | none => none
    | some d =>
      let i := i + d * weight
      let t := threshold k bias
      if d < t then some (i, rest) else readNumber? bias (k + 36) (weight * (36 - t)) i rest

/-- Reads the numbers of a label and puts the characters into it, at most `fuel` of them.
The next one has at least code point `n` and stands at least at place `i`. -/
def insertAll? : Nat → Nat → Nat → Nat → List Char → List Char → Option (List Char)
  | _, _, _, _, label, [] => some label
  | 0, _, _, _, _, _ => none
  | fuel + 1, n, i, bias, label, rest =>
    match readNumber? bias 36 1 i rest with
    | none => none
    | some (j, rest) =>
      let count := label.length + 1
      let n := n + j / count
      let place := j % count
      if n.isValidChar then
        insertAll? fuel n (place + 1) (adapt (j - i) count (i = 0))
          (label.take place ++ Char.ofNat n :: label.drop place) rest
      else none

/-- The parts of a text around its last dash. Without a dash nothing stands before it. -/
def splitAtLastDash (s : List Char) : List Char × List Char :=
  let behind := (s.reverse.takeWhile (· ≠ '-')).reverse
  (s.take (s.length - behind.length - 1), behind)

/-- The label of a text in ASCII. -/
def decode? (s : List Char) : Option (List Char) :=
  let (basic, numbers) := splitAtLastDash s
  if s.head? = some '-' && basic.isEmpty then none
  else insertAll? s.length 0x80 0 72 basic numbers

end VectorFetch.Url.Domain.Punycode

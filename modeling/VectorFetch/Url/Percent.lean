import VectorFetch.Text.Radix

/-!
# Percent encoding

* `Percent.encode`: writes the characters of a set as `%` and two uppercase
  hexadecimal digits for each of their bytes.
* `Percent.decode`: reads such bytes back; a `%` without two digits behind it stands
  for itself.
* `inControls`, `inFragment`, `inQuery`, `inPath`, `inUserinfo`: the sets of the parts
  of a URL. Each holds the controls and every character beyond ASCII.
-/

namespace VectorFetch.Url.Percent

/-! ## Sets -/

/-- Controls, and every character beyond ASCII. -/
def inControls (c : Char) : Bool := c.toNat < 0x20 || 0x7F ≤ c.toNat

/-- What is encoded in a fragment. -/
def inFragment (c : Char) : Bool := inControls c || [' ', '"', '<', '>', '`'].contains c

/-- What is encoded in a query. The apostrophe is encoded under the special schemes. -/
def inQuery (special : Bool) (c : Char) : Bool :=
  inControls c || [' ', '"', '#', '<', '>'].contains c || (special && c = '\'')

/-- What is encoded in a segment of a path. -/
def inPath (c : Char) : Bool := inFragment c || ['#', '?', '{', '}'].contains c

/-- What is encoded in a user name or a password. -/
def inUserinfo (c : Char) : Bool :=
  inPath c || ['/', ':', ';', '=', '@', '[', '\\', ']', '^', '|'].contains c

/-! ## Digits -/

/-- The uppercase hexadecimal digit of a number below sixteen. -/
def digit (n : Nat) : Char := n.digitChar.toUpper

/-! ## Encoding -/

/-- A byte as `%` and two digits. -/
def encodeByte (b : UInt8) : List Char := ['%', digit (b.toNat / 16), digit (b.toNat % 16)]

/-- A character, encoded if it belongs to the set. -/
def encodeChar (set : Char → Bool) (c : Char) : List Char :=
  if set c then (String.utf8EncodeChar c).flatMap encodeByte else [c]

/-- A text with the characters of a set encoded. -/
def encode (set : Char → Bool) (s : List Char) : List Char := s.flatMap (encodeChar set)

/-! ## Decoding -/

/-- The bytes that a text stands for. -/
def decode : Bytes → Bytes
  | 37 :: a :: b :: rest =>
    match Radix.byteDigit? 16 a, Radix.byteDigit? 16 b with
    | some x, some y => UInt8.ofNat (16 * x + y) :: decode rest
    | _, _ => 37 :: decode (a :: b :: rest)
  | a :: rest => a :: decode rest
  | [] => []

end VectorFetch.Url.Percent

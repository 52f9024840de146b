import VectorFetch.Text.Quoted
import VectorFetch.Text.Radix

/-!
# Keys

A key names one test vector file. There are 256 of them, one per byte value,
and each is written as two lowercase hexadecimal digits.

* `Key`, `Key.text`, `Key.fileName`: the key and the names made from it.
* `Key.all`: the key space in increasing order.
* `Key.parse`: reads a key back. The shape of the text is checked first, and then
  its number is read; a rejected text is handed back.
* `InvalidKey.message`: the message for a rejected text.

By `parse_text` every text that is written is read back.
-/

namespace VectorFetch

/-- A key of the key space, identified by its byte value. -/
structure Key where
  value : UInt8
  deriving DecidableEq, Repr, Inhabited

/-- A text that is not a key. -/
structure InvalidKey where
  text : String
  deriving DecidableEq, Repr

namespace Key

/-! ## Hexadecimal digits -/

/-- The byte that a digit is written as. -/
def digitByte (n : Nat) : UInt8 := if n < 10 then UInt8.ofNat (48 + n) else UInt8.ofNat (87 + n)

/-- A decimal digit, or a letter from `a` to `f`. -/
def isDigitByte (b : UInt8) : Bool := (0x30 ≤ b && b ≤ 0x39) || (0x61 ≤ b && b ≤ 0x66)

/-- A digit is written as one byte, which counts as a digit and has its value. -/
theorem digit_spec {n : Nat} (h : n < 16) : String.utf8EncodeChar n.digitChar = [digitByte n] ∧
    isDigitByte (digitByte n) ∧ Radix.byteDigit? 16 (digitByte n) = some n := by
  have all : ∀ n < 16, String.utf8EncodeChar n.digitChar = [digitByte n] ∧
      isDigitByte (digitByte n) ∧ Radix.byteDigit? 16 (digitByte n) = some n := by decide
  exact all n h

/-! ## Names -/

/-- A number below 256, taken as a key. Larger numbers wrap. -/
def ofNat (n : Nat) : Key := ⟨UInt8.ofNat n⟩

/-- The place of the key in the key space. -/
def index (key : Key) : Nat := key.value.toNat

theorem index_lt (key : Key) : key.index < 256 := key.value.toNat_lt

theorem index_ofNat {n : Nat} (h : n < 256) : (ofNat n).index = n :=
  Nat.mod_eq_of_lt h

@[simp] theorem ofNat_index (key : Key) : ofNat key.index = key := by
  simp [ofNat, index]

/-- Two lowercase hexadecimal digits, the high one first. -/
def text (key : Key) : String :=
  String.ofList [(key.index / 16).digitChar, (key.index % 16).digitChar]

/-- The name of the file that holds the vectors of this key. -/
def fileName (key : Key) : String := key.text ++ ".json"

/-- The key as a tagged number. -/
def description (key : Key) : String := s!"Key({key.index})"

instance : ToString Key := ⟨text⟩

/-! ## The key space -/

def count : Nat := 256

/-- Every key once, in increasing order. -/
def all : List Key := (List.range count).map ofNat

/-! ## Order -/

instance : Ord Key := ⟨fun a b => compare a.index b.index⟩

/-- The later of two keys. -/
def max (a b : Key) : Key := if a.index ≤ b.index then b else a

/-- The earlier of two keys. -/
def min (a b : Key) : Key := if b.index < a.index then b else a

/-! ## Reading -/

/-- Two bytes, both of them digits. -/
def isWellFormed (bytes : Bytes) : Bool := bytes.length = 2 && bytes.all isDigitByte

/-- Reads two lowercase hexadecimal digits and nothing else. -/
def parse (s : String) : Except InvalidKey Key :=
  if isWellFormed (Utf8.encode s) then
    match Radix.read 16 (Utf8.encode s) with
    | .ok n => .ok (ofNat n)
    | .error _ => .error ⟨s⟩
  else .error ⟨s⟩

theorem encode_text (key : Key) :
    Utf8.encode key.text = [digitByte (key.index / 16), digitByte (key.index % 16)] := by
  have bound := key.index_lt
  have high := (digit_spec (n := key.index / 16) (by omega)).1
  have low := (digit_spec (n := key.index % 16) (by omega)).1
  simp only [Utf8.encode, Utf8.encodeChars, text, String.toList_ofList, List.flatMap_cons,
    List.flatMap_nil, high, low, List.cons_append, List.nil_append]

theorem isWellFormed_digits {high low : Nat} (h : high < 16) (l : low < 16) :
    isWellFormed [digitByte high, digitByte low] := by
  simp [isWellFormed, (digit_spec h).2.1, (digit_spec l).2.1]

/-- Two digits are never too much for a byte. -/
theorem read_digits {high low : Nat} (h : high < 16) (l : low < 16) :
    Radix.read 16 [digitByte high, digitByte low] = .ok (16 * high + low) := by
  have unsigned : ∀ n < 16, digitByte n ≠ 0x2B := by decide
  simp only [Radix.read, if_neg (unsigned high h), Radix.readFrom, (digit_spec h).2.2,
    (digit_spec l).2.2]
  rw [if_pos (by omega), if_pos (by omega), Nat.zero_mul, Nat.zero_add, Nat.mul_comm]

theorem parse_text (key : Key) : parse key.text = .ok key := by
  have bound := key.index_lt
  have high : key.index / 16 < 16 := by omega
  have low : key.index % 16 < 16 := by omega
  simp only [parse, encode_text, isWellFormed_digits high low, read_digits high low, if_true]
  rw [Nat.div_add_mod, ofNat_index]

theorem text_injective {a b : Key} (same : a.text = b.text) : a = b := by
  have read := parse_text a
  rw [same, parse_text] at read
  exact (Except.ok.inj read).symm

end Key

/-- The message for a text that is not a key. -/
def InvalidKey.message (e : InvalidKey) : String :=
  s!"invalid key {Text.quoted e.text}: expected two lowercase hex digits"

end VectorFetch

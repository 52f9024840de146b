/-!
# UTF-8

Byte strings are lists of bytes. This module turns text into bytes and back.

* `Utf8.encode`: the bytes of a text.
* `Utf8.decode`: the characters of a byte string, or the length of the longest
  part at the front that is well formed.
* `Utf8.text?`: the same as a `String`, without the place of the fault.

Overlong forms, surrogates and values above U+10FFFF are not well formed.
-/

namespace VectorFetch

/-- A byte string. -/
abbrev Bytes := List UInt8

namespace Utf8

/-! ## Writing -/

/-- The bytes of a list of characters. -/
def encodeChars (chars : List Char) : Bytes := chars.flatMap String.utf8EncodeChar

def encode (s : String) : Bytes := encodeChars s.toList

/-! ## Reading -/

/-- A byte that continues a character, with the six bits it carries. -/
def tail? (b : UInt8) : Option Nat :=
  if 0x80 ≤ b ∧ b ≤ 0xBF then some (b.toNat - 0x80) else none

/-- A second byte that must lie between two bounds. -/
def tailWithin? (low high b : UInt8) : Option Nat :=
  if low ≤ b ∧ b ≤ high then some (b.toNat - 0x80) else none

/-- The character of a two-byte form. -/
def char2? (a b : UInt8) : Option Char :=
  if 0xC2 ≤ a ∧ a ≤ 0xDF then
    (tail? b).map fun y => Char.ofNat ((a.toNat - 0xC0) * 64 + y)
  else none

/-- The character of a three-byte form. The bounds of the second byte rule out
overlong forms and surrogates. -/
def char3? (a b c : UInt8) : Option Char :=
  if 0xE0 ≤ a ∧ a ≤ 0xEF then
    let low := if a = 0xE0 then 0xA0 else 0x80
    let high := if a = 0xED then 0x9F else 0xBF
    match tailWithin? low high b, tail? c with
    | some y, some z => some (Char.ofNat ((a.toNat - 0xE0) * 4096 + y * 64 + z))
    | _, _ => none
  else none

/-- The character of a four-byte form. The bounds of the second byte rule out
overlong forms and values above U+10FFFF. -/
def char4? (a b c d : UInt8) : Option Char :=
  if 0xF0 ≤ a ∧ a ≤ 0xF4 then
    let low := if a = 0xF0 then 0x90 else 0x80
    let high := if a = 0xF4 then 0x8F else 0xBF
    match tailWithin? low high b, tail? c, tail? d with
    | some x, some y, some z =>
      some (Char.ofNat ((a.toNat - 0xF0) * 262144 + x * 4096 + y * 64 + z))
    | _, _, _ => none
  else none

/-- Reads characters until the end or the first fault; `done` bytes lie behind and
`chars` were read from them, the latest first. -/
def decodeFrom (done : Nat) (chars : List Char) : Bytes → Except Nat (List Char)
  | [] => .ok chars.reverse
  | a :: rest =>
    if a < 0x80 then decodeFrom (done + 1) (Char.ofUInt8 a :: chars) rest
    else
      match rest with
      | [] => .error done
      | b :: rest₂ =>
        match char2? a b with
        | some c => decodeFrom (done + 2) (c :: chars) rest₂
        | none =>
          match rest₂ with
          | [] => .error done
          | c :: rest₃ =>
            match char3? a b c with
            | some ch => decodeFrom (done + 3) (ch :: chars) rest₃
            | none =>
              match rest₃ with
              | [] => .error done
              | d :: rest₄ =>
                match char4? a b c d with
                | some ch => decodeFrom (done + 4) (ch :: chars) rest₄
                | none => .error done

/-- The characters of a byte string; on a fault, how many bytes before it are well
formed. -/
def decode (bytes : Bytes) : Except Nat (List Char) := decodeFrom 0 [] bytes

/-- The text of a byte string, if it is well formed. -/
def text? (bytes : Bytes) : Option String :=
  match decode bytes with
  | .ok chars => some (String.ofList chars)
  | .error _ => none

end Utf8

end VectorFetch

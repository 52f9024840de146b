import VectorFetch.Text.Utf8

/-!
# Reading UTF-8 back

The bytes of a text are well formed, and what is read from them is that text.

* `char2?_encode`, `char3?_encode`, `char4?_encode`: one character, by the length of its
  form. A longer form is not mistaken for a shorter one.
* `decode_encodeChars`, `text?_encode`: whole texts.
-/

namespace VectorFetch.Utf8

/-! ## Bytes that continue a character -/

theorem toNat_ofNat {n : Nat} (h : n < 256) : (UInt8.ofNat n).toNat = n :=
  UInt8.toNat_ofNat_of_lt h

theorem ofNat_within {b : UInt8} {n : Nat} (low high : UInt8) (h : b.toNat = n)
    (hl : low.toNat ≤ n) (hh : n ≤ high.toNat) : low ≤ b ∧ b ≤ high :=
  ⟨UInt8.le_iff_toNat_le.2 (h ▸ hl), UInt8.le_iff_toNat_le.2 (h ▸ hh)⟩

theorem tail?_ofNat {n : Nat} (h : n < 64) : tail? (UInt8.ofNat (n + 128)) = some n := by
  simp only [tail?, UInt8.le_iff_toNat_le, toNat_ofNat (show n + 128 < 256 by omega)]
  rw [if_pos ⟨by change 128 ≤ n + 128; omega, by change n + 128 ≤ 191; omega⟩,
    Nat.add_sub_cancel]

theorem tailWithin?_ofNat {low high : UInt8} {n : Nat} (h : n < 64)
    (hl : low.toNat ≤ n + 128) (hh : n + 128 ≤ high.toNat) :
    tailWithin? low high (UInt8.ofNat (n + 128)) = some n := by
  simp only [tailWithin?, UInt8.le_iff_toNat_le, toNat_ofNat (show n + 128 < 256 by omega)]
  rw [if_pos ⟨hl, hh⟩, Nat.add_sub_cancel]

/-- A second byte whose bounds are narrower behind some first bytes. -/
theorem tailWithin?_of_lead (lead first low last high : UInt8) {n : Nat} (h : n < 64)
    (hf : lead = first → low.toNat ≤ n + 128) (hl : lead = last → n + 128 ≤ high.toNat) :
    tailWithin? (if lead = first then low else 0x80) (if lead = last then high else 0xBF)
      (UInt8.ofNat (n + 128)) = some n := by
  apply tailWithin?_ofNat h
  · split
    · next e => exact hf e
    · change 128 ≤ n + 128
      omega
  · split
    · next e => exact hl e
    · change n + 128 ≤ 191
      omega

/-! ## The forms of one to four bytes -/

/-- A character is no surrogate and at most U+10FFFF. -/
theorem toNat_bounds (c : Char) : c.toNat < 0xD800 ∨ (0xDFFF < c.toNat ∧ c.toNat < 0x110000) :=
  c.valid

theorem char2?_eq_none {a : UInt8} (h : 0xDF < a.toNat) (b : UInt8) : char2? a b = none := by
  have outside : ¬(0xC2 ≤ a ∧ a ≤ 0xDF) := fun within =>
    Nat.not_le.2 h (UInt8.le_iff_toNat_le.1 within.2)
  rw [char2?, if_neg outside]

theorem char3?_eq_none {a : UInt8} (h : 0xEF < a.toNat) (b c : UInt8) : char3? a b c = none := by
  have outside : ¬(0xE0 ≤ a ∧ a ≤ 0xEF) := fun within =>
    Nat.not_le.2 h (UInt8.le_iff_toNat_le.1 within.2)
  rw [char3?, if_neg outside]

theorem char2?_encode {c : Char} (h : 127 < c.toNat) (h' : c.toNat ≤ 2047) :
    char2? (UInt8.ofNat (c.toNat / 64 % 32 + 192)) (UInt8.ofNat (c.toNat % 64 + 128)) =
      some c := by
  have ha := toNat_ofNat (n := c.toNat / 64 % 32 + 192) (by omega)
  have lead := ofNat_within 0xC2 0xDF ha
    (by change 194 ≤ c.toNat / 64 % 32 + 192; omega)
    (by change c.toNat / 64 % 32 + 192 ≤ 223; omega)
  rw [char2?, if_pos lead, tail?_ofNat (by omega), ha, Option.map_some,
    show (c.toNat / 64 % 32 + 192 - 0xC0) * 64 + c.toNat % 64 = c.toNat by omega,
    Char.ofNat_toNat]

theorem char3?_encode {c : Char} (h : 2047 < c.toNat) (h' : c.toNat ≤ 65535) :
    char3? (UInt8.ofNat (c.toNat / 4096 % 16 + 224)) (UInt8.ofNat (c.toNat / 64 % 64 + 128))
      (UInt8.ofNat (c.toNat % 64 + 128)) = some c := by
  have ha := toNat_ofNat (n := c.toNat / 4096 % 16 + 224) (by omega)
  have bounds := toNat_bounds c
  have lead := ofNat_within 0xE0 0xEF ha
    (by change 224 ≤ c.toNat / 4096 % 16 + 224; omega)
    (by change c.toNat / 4096 % 16 + 224 ≤ 239; omega)
  -- Behind two of the leads the second byte has narrower bounds.
  have hb := tailWithin?_of_lead (UInt8.ofNat (c.toNat / 4096 % 16 + 224)) 0xE0 0xA0 0xED 0x9F
    (show c.toNat / 64 % 64 < 64 by omega)
    (fun e => by
      have value : c.toNat / 4096 % 16 + 224 = 224 := ha.symm.trans (congrArg UInt8.toNat e)
      change 160 ≤ c.toNat / 64 % 64 + 128
      omega)
    (fun e => by
      have value : c.toNat / 4096 % 16 + 224 = 237 := ha.symm.trans (congrArg UInt8.toNat e)
      change c.toNat / 64 % 64 + 128 ≤ 159
      omega)
  simp only [char3?, if_pos lead, hb, tail?_ofNat (show c.toNat % 64 < 64 by omega), ha]
  rw [show (c.toNat / 4096 % 16 + 224 - 0xE0) * 4096 + c.toNat / 64 % 64 * 64 + c.toNat % 64
    = c.toNat by omega, Char.ofNat_toNat]

theorem char4?_encode {c : Char} (h : 65535 < c.toNat) :
    char4? (UInt8.ofNat (c.toNat / 262144 % 8 + 240)) (UInt8.ofNat (c.toNat / 4096 % 64 + 128))
      (UInt8.ofNat (c.toNat / 64 % 64 + 128)) (UInt8.ofNat (c.toNat % 64 + 128)) = some c := by
  have ha := toNat_ofNat (n := c.toNat / 262144 % 8 + 240) (by omega)
  have bounds := toNat_bounds c
  have lead := ofNat_within 0xF0 0xF4 ha
    (by change 240 ≤ c.toNat / 262144 % 8 + 240; omega)
    (by change c.toNat / 262144 % 8 + 240 ≤ 244; omega)
  have hb := tailWithin?_of_lead (UInt8.ofNat (c.toNat / 262144 % 8 + 240)) 0xF0 0x90 0xF4 0x8F
    (show c.toNat / 4096 % 64 < 64 by omega)
    (fun e => by
      have value : c.toNat / 262144 % 8 + 240 = 240 := ha.symm.trans (congrArg UInt8.toNat e)
      change 144 ≤ c.toNat / 4096 % 64 + 128
      omega)
    (fun e => by
      have value : c.toNat / 262144 % 8 + 240 = 244 := ha.symm.trans (congrArg UInt8.toNat e)
      change c.toNat / 4096 % 64 + 128 ≤ 143
      omega)
  simp only [char4?, if_pos lead, hb, tail?_ofNat (show c.toNat / 64 % 64 < 64 by omega),
    tail?_ofNat (show c.toNat % 64 < 64 by omega), ha]
  rw [show (c.toNat / 262144 % 8 + 240 - 0xF0) * 262144 + c.toNat / 4096 % 64 * 4096
    + c.toNat / 64 % 64 * 64 + c.toNat % 64 = c.toNat by omega, Char.ofNat_toNat]

theorem utf8EncodeChar_one {c : Char} (h : c.toNat ≤ 127) :
    String.utf8EncodeChar c = [UInt8.ofNat c.toNat] :=
  if_pos h

theorem utf8EncodeChar_two {c : Char} (h : 127 < c.toNat) (h' : c.toNat ≤ 2047) :
    String.utf8EncodeChar c =
      [UInt8.ofNat (c.toNat / 64 % 32 + 192), UInt8.ofNat (c.toNat % 64 + 128)] :=
  (if_neg (Nat.not_le.2 h)).trans (if_pos h')

theorem utf8EncodeChar_three {c : Char} (h : 2047 < c.toNat) (h' : c.toNat ≤ 65535) :
    String.utf8EncodeChar c =
      [UInt8.ofNat (c.toNat / 4096 % 16 + 224), UInt8.ofNat (c.toNat / 64 % 64 + 128),
        UInt8.ofNat (c.toNat % 64 + 128)] :=
  (if_neg (by change ¬c.toNat ≤ 127; omega)).trans
    ((if_neg (Nat.not_le.2 h)).trans (if_pos h'))

theorem utf8EncodeChar_four {c : Char} (h : 65535 < c.toNat) :
    String.utf8EncodeChar c =
      [UInt8.ofNat (c.toNat / 262144 % 8 + 240), UInt8.ofNat (c.toNat / 4096 % 64 + 128),
        UInt8.ofNat (c.toNat / 64 % 64 + 128), UInt8.ofNat (c.toNat % 64 + 128)] :=
  (if_neg (by change ¬c.toNat ≤ 127; omega)).trans
    ((if_neg (by change ¬c.toNat ≤ 2047; omega)).trans (if_neg (Nat.not_le.2 h)))

/-! ## Reading back -/

theorem not_lt_of_lead {n : Nat} (h : 128 ≤ n) (h' : n < 256) : ¬UInt8.ofNat n < 0x80 := by
  rw [UInt8.lt_iff_toNat_lt, toNat_ofNat h']
  exact Nat.not_lt.2 h

/-- The bytes of a character are read as that character. -/
theorem decodeFrom_encodeChar (c : Char) (done : Nat) (chars : List Char) (rest : Bytes) :
    decodeFrom done chars (String.utf8EncodeChar c ++ rest) =
      decodeFrom (done + (String.utf8EncodeChar c).length) (c :: chars) rest := by
  -- One case for each number of bytes; a longer form is tried only if the shorter ones do not
  -- match.
  by_cases one : c.toNat ≤ 127
  · have small : UInt8.ofNat c.toNat < 0x80 := by
      rw [UInt8.lt_iff_toNat_lt, toNat_ofNat (by omega)]
      change c.toNat < 128
      omega
    have back : Char.ofUInt8 (UInt8.ofNat c.toNat) = c := by
      apply Char.toNat_inj.1
      change (UInt8.ofNat c.toNat).toUInt32.toNat = c.toNat
      rw [UInt8.toNat_toUInt32, toNat_ofNat (by omega)]
    rw [utf8EncodeChar_one one, List.singleton_append, decodeFrom.eq_def]
    simp only [if_pos small, back]
    rfl
  by_cases two : c.toNat ≤ 2047
  · have lead := not_lt_of_lead (n := c.toNat / 64 % 32 + 192) (by omega) (by omega)
    rw [utf8EncodeChar_two (by omega) two, List.cons_append, decodeFrom.eq_def]
    simp only [if_neg lead, List.cons_append, char2?_encode (by omega) two]
    rfl
  by_cases three : c.toNat ≤ 65535
  · have lead := not_lt_of_lead (n := c.toNat / 4096 % 16 + 224) (by omega) (by omega)
    have value := toNat_ofNat (n := c.toNat / 4096 % 16 + 224) (by omega)
    rw [utf8EncodeChar_three (by omega) three, List.cons_append, decodeFrom.eq_def]
    simp only [if_neg lead, List.cons_append, char2?_eq_none (show 0xDF < _ by rw [value]; omega),
      char3?_encode (show 2047 < c.toNat by omega) three]
    rfl
  · have lead := not_lt_of_lead (n := c.toNat / 262144 % 8 + 240) (by omega) (by omega)
    have value := toNat_ofNat (n := c.toNat / 262144 % 8 + 240) (by omega)
    rw [utf8EncodeChar_four (by omega), List.cons_append, decodeFrom.eq_def]
    simp only [if_neg lead, List.cons_append, char2?_eq_none (show 0xDF < _ by rw [value]; omega),
      char3?_eq_none (show 0xEF < _ by rw [value]; omega),
      char4?_encode (show 65535 < c.toNat by omega)]
    rfl

theorem decodeFrom_encodeChars (s : List Char) (done : Nat) (chars : List Char) :
    decodeFrom done chars (encodeChars s) = .ok (chars.reverse ++ s) := by
  induction s generalizing done chars with
  | nil => simp [encodeChars, decodeFrom]
  | cons c s ih =>
    have := decodeFrom_encodeChar c done chars (encodeChars s)
    simp only [encodeChars, List.flatMap_cons] at *
    rw [this, ih, List.reverse_cons, List.append_assoc, List.singleton_append]

theorem decode_encodeChars (s : List Char) : decode (encodeChars s) = .ok s :=
  decodeFrom_encodeChars s 0 []

theorem text?_encode (s : String) : text? (encode s) = some s := by
  simp [text?, encode, decode_encodeChars]

end VectorFetch.Utf8

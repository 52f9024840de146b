import VectorFetch.Text.Utf8.Lemmas

/-!
# Well-formed bytes

What is read as text is the bytes of that text, so reading and writing are inverse to each
other.

* `decode_eq_ok_iff`: a byte string is read as the characters whose bytes it is.
* `encodeChar_append_eq_encodeChars`: the first character of a byte string is settled by its
  first bytes.
* `Continues`: bytes that stand inside a character and not at its start.
-/

namespace VectorFetch.Utf8

/-! ## Writing -/

@[simp] theorem encodeChars_nil : encodeChars [] = [] := rfl

@[simp] theorem encodeChars_cons (c : Char) (s : List Char) :
    encodeChars (c :: s) = String.utf8EncodeChar c ++ encodeChars s := by
  simp [encodeChars]

@[simp] theorem encodeChars_append (s t : List Char) :
    encodeChars (s ++ t) = encodeChars s ++ encodeChars t := by
  simp [encodeChars]

theorem encodeChars_injective {s t : List Char} (same : encodeChars s = encodeChars t) : s = t := by
  have read := decode_encodeChars s
  rw [same, decode_encodeChars t] at read
  exact (Except.ok.inj read).symm

/-! ## Characters of one byte -/

theorem toNat_ofUInt8 (b : UInt8) : (Char.ofUInt8 b).toNat = b.toNat :=
  UInt8.toNat_toUInt32 b

theorem utf8EncodeChar_ofUInt8 {b : UInt8} (ascii : b.toNat < 128) :
    String.utf8EncodeChar (Char.ofUInt8 b) = [b] := by
  have small : (Char.ofUInt8 b).toNat ≤ 127 := by rw [toNat_ofUInt8]; omega
  rw [utf8EncodeChar_one small, toNat_ofUInt8, UInt8.ofNat_toNat]

/-- A text of one-byte characters, given by its bytes. -/
theorem encodeChars_map_ofUInt8 {bytes : Bytes} (ascii : ∀ b ∈ bytes, b.toNat < 128) :
    encodeChars (bytes.map Char.ofUInt8) = bytes := by
  induction bytes with
  | nil => rfl
  | cons b rest ih =>
    rw [List.map_cons, encodeChars_cons, utf8EncodeChar_ofUInt8 (ascii b (by simp)),
      ih fun c member => ascii c (by simp [member])]
    rfl

/-! ## Longer characters -/

/-- A byte that stands inside a character. -/
def Continues (b : UInt8) : Prop := 0x80 ≤ b.toNat ∧ b.toNat ≤ 0xBF

theorem tail?_eq_some {b : UInt8} {n : Nat} (read : tail? b = some n) :
    Continues b ∧ b.toNat = n + 128 := by
  unfold tail? at read
  split at read
  next within =>
    have low : 128 ≤ b.toNat := UInt8.le_iff_toNat_le.1 within.1
    have high : b.toNat ≤ 191 := UInt8.le_iff_toNat_le.1 within.2
    have value : b.toNat - 128 = n := Option.some.inj read
    exact ⟨⟨low, high⟩, by omega⟩
  next => cases read

theorem tailWithin?_eq_some {low high b : UInt8} {n : Nat} (read : tailWithin? low high b = some n) :
    low.toNat ≤ b.toNat ∧ b.toNat ≤ high.toNat ∧ n = b.toNat - 128 := by
  unfold tailWithin? at read
  split at read
  next within =>
    have value : b.toNat - 128 = n := Option.some.inj read
    exact ⟨UInt8.le_iff_toNat_le.1 within.1, UInt8.le_iff_toNat_le.1 within.2, value.symm⟩
  next => cases read

theorem toNat_ofNat_of_valid {n : Nat} (valid : n.isValidChar) : (Char.ofNat n).toNat = n := by
  rw [Char.ofNat, dif_pos valid]
  rfl

theorem char2?_eq_some {a b : UInt8} {c : Char} (read : char2? a b = some c) :
    String.utf8EncodeChar c = [a, b] ∧ 128 ≤ c.toNat ∧ Continues b := by
  unfold char2? at read
  split at read
  next within =>
    obtain ⟨y, second, rfl⟩ := Option.map_eq_some_iff.1 read
    obtain ⟨continues, value⟩ := tail?_eq_some second
    have low : 194 ≤ a.toNat := UInt8.le_iff_toNat_le.1 within.1
    have high : a.toNat ≤ 223 := UInt8.le_iff_toNat_le.1 within.2
    have bounds := continues
    unfold Continues at bounds
    change String.utf8EncodeChar (Char.ofNat ((a.toNat - 192) * 64 + y)) = _ ∧
      128 ≤ (Char.ofNat ((a.toNat - 192) * 64 + y)).toNat ∧ _
    have code := toNat_ofNat_of_valid (n := (a.toNat - 192) * 64 + y) (.inl (by omega))
    refine ⟨?_, by omega, continues⟩
    -- Each byte is given back by division, within the bounds that were checked.
    rw [utf8EncodeChar_two (by omega) (by omega), code]
    congr 1
    · rw [← UInt8.toNat_inj, toNat_ofNat (by omega)]; omega
    · congr 1
      rw [← UInt8.toNat_inj, toNat_ofNat (by omega)]; omega
  next => cases read

/-- The bounds of a second byte that depend on the first byte. -/
theorem tailWithin?_of_lead_eq_some {lead first low last high b : UInt8} {n : Nat}
    (read : tailWithin? (if lead = first then low else 0x80) (if lead = last then high else 0xBF) b =
      some n) (wide : 0x80 ≤ low.toNat) (narrow : high.toNat ≤ 0xBF) :
    Continues b ∧ b.toNat = n + 128 ∧ (lead.toNat = first.toNat → low.toNat ≤ b.toNat) ∧
      (lead.toNat = last.toNat → b.toNat ≤ high.toNat) := by
  obtain ⟨above, below, value⟩ := tailWithin?_eq_some read
  have least : 128 ≤ (if lead = first then low else 0x80).toNat := by split <;> simp_all
  have most : (if lead = last then high else 0xBF).toNat ≤ 191 := by split <;> simp_all
  refine ⟨⟨by omega, by omega⟩, by omega, fun same => ?_, fun same => ?_⟩
  · rwa [if_pos (UInt8.toNat_inj.1 same)] at above
  · rwa [if_pos (UInt8.toNat_inj.1 same)] at below

theorem char3?_eq_some {a b d : UInt8} {c : Char} (read : char3? a b d = some c) :
    String.utf8EncodeChar c = [a, b, d] ∧ 128 ≤ c.toNat ∧ Continues b ∧ Continues d := by
  by_cases within : 0xE0 ≤ a ∧ a ≤ 0xEF
  · simp only [char3?, if_pos within] at read
    cases second : tailWithin? (if a = 0xE0 then 0xA0 else 0x80) (if a = 0xED then 0x9F else 0xBF) b with
    | none => simp [second] at read
    | some y =>
      cases third : tail? d with
      | none => simp [second, third] at read
      | some z =>
        simp only [second, third] at read
        obtain ⟨continues, value, above, below⟩ :=
          tailWithin?_of_lead_eq_some second (by decide) (by decide)
        obtain ⟨continues', value'⟩ := tail?_eq_some third
        have low : 224 ≤ a.toNat := UInt8.le_iff_toNat_le.1 within.1
        have high : a.toNat ≤ 239 := UInt8.le_iff_toNat_le.1 within.2
        change a.toNat = 224 → 160 ≤ b.toNat at above
        change a.toNat = 237 → b.toNat ≤ 159 at below
        have bounds := continues
        have bounds' := continues'
        unfold Continues at bounds bounds'
        -- The bounds of the second byte keep overlong forms and surrogates out.
        have char : Char.ofNat ((a.toNat - 224) * 4096 + y * 64 + z) = c := Option.some.inj read
        have code := toNat_ofNat_of_valid (n := (a.toNat - 224) * 4096 + y * 64 + z)
          (by unfold Nat.isValidChar; omega)
        rw [char] at code
        refine ⟨?_, by omega, continues, continues'⟩
        rw [utf8EncodeChar_three (by omega) (by omega), code]
        refine congr (congrArg _ ?_) (congr (congrArg _ ?_) (congrArg (fun x => [x]) ?_)) <;>
          rw [← UInt8.toNat_inj, toNat_ofNat (by omega)] <;> omega
  · simp [char3?, within] at read

theorem char4?_eq_some {a b d e : UInt8} {c : Char} (read : char4? a b d e = some c) :
    String.utf8EncodeChar c = [a, b, d, e] ∧ 128 ≤ c.toNat ∧
      Continues b ∧ Continues d ∧ Continues e := by
  by_cases within : 0xF0 ≤ a ∧ a ≤ 0xF4
  · simp only [char4?, if_pos within] at read
    cases second : tailWithin? (if a = 0xF0 then 0x90 else 0x80) (if a = 0xF4 then 0x8F else 0xBF) b with
    | none => simp [second] at read
    | some x =>
      cases third : tail? d with
      | none => simp [second, third] at read
      | some y =>
        cases fourth : tail? e with
        | none => simp [second, third, fourth] at read
        | some z =>
          simp only [second, third, fourth] at read
          obtain ⟨continues, value, above, below⟩ :=
            tailWithin?_of_lead_eq_some second (by decide) (by decide)
          obtain ⟨continues', value'⟩ := tail?_eq_some third
          obtain ⟨continues'', value''⟩ := tail?_eq_some fourth
          have low : 240 ≤ a.toNat := UInt8.le_iff_toNat_le.1 within.1
          have high : a.toNat ≤ 244 := UInt8.le_iff_toNat_le.1 within.2
          -- The bounds of the second byte exclude shorter forms and what is too large.
          change a.toNat = 240 → 144 ≤ b.toNat at above
          change a.toNat = 244 → b.toNat ≤ 143 at below
          have bounds := continues
          have bounds' := continues'
          have bounds'' := continues''
          unfold Continues at bounds bounds' bounds''
          have char : Char.ofNat ((a.toNat - 240) * 262144 + x * 4096 + y * 64 + z) = c :=
            Option.some.inj read
          have code := toNat_ofNat_of_valid (n := (a.toNat - 240) * 262144 + x * 4096 + y * 64 + z)
            (by unfold Nat.isValidChar; omega)
          rw [char] at code
          refine ⟨?_, by omega, continues, continues', continues''⟩
          rw [utf8EncodeChar_four (by omega), code]
          refine congr (congrArg _ ?_)
              (congr (congrArg _ ?_) (congr (congrArg _ ?_) (congrArg (fun x => [x]) ?_))) <;>
            rw [← UInt8.toNat_inj, toNat_ofNat (by omega)] <;> omega
  · simp [char4?, within] at read

/-! ## Reading -/

theorem decodeFrom_eq_ok {done : Nat} {before s : List Char} {bytes : Bytes}
    (read : decodeFrom done before bytes = .ok s) :
    ∃ s', s = before.reverse ++ s' ∧ bytes = encodeChars s' := by
  fun_induction decodeFrom done before bytes with
  | case1 => exact ⟨[], by simpa using (Except.ok.inj read).symm, rfl⟩
  | case2 done before a rest one ih =>
    obtain ⟨s', rfl, rfl⟩ := ih read
    have ascii : a.toNat < 128 := UInt8.lt_iff_toNat_lt.1 one
    exact ⟨Char.ofUInt8 a :: s', by simp, by simp [utf8EncodeChar_ofUInt8 ascii]⟩
  | case4 done before a _ b rest c two ih =>
    obtain ⟨s', rfl, rfl⟩ := ih read
    exact ⟨c :: s', by simp, by simp [(char2?_eq_some two).1]⟩
  | case6 done before a _ b _ d rest c three ih =>
    obtain ⟨s', rfl, rfl⟩ := ih read
    exact ⟨c :: s', by simp, by simp [(char3?_eq_some three).1]⟩
  | case8 done before a _ b _ d _ e rest c four ih =>
    obtain ⟨s', rfl, rfl⟩ := ih read
    exact ⟨c :: s', by simp, by simp [(char4?_eq_some four).1]⟩
  | case3 | case5 | case7 | case9 => cases read

theorem decodeFrom_eq_ok_iff {done : Nat} {before s : List Char} {bytes : Bytes} :
    decodeFrom done before bytes = .ok s ↔ ∃ s', s = before.reverse ++ s' ∧ bytes = encodeChars s' := by
  refine ⟨decodeFrom_eq_ok, ?_⟩
  rintro ⟨s', rfl, rfl⟩
  exact decodeFrom_encodeChars s' done before

/-- A byte string is read as the characters whose bytes it is. -/
theorem decode_eq_ok_iff {bytes : Bytes} {s : List Char} :
    decode bytes = .ok s ↔ bytes = encodeChars s := by
  simp [decode, decodeFrom_eq_ok_iff]

/-- The first bytes settle the first character. -/
theorem encodeChar_append_eq_encodeChars {c : Char} {rest : Bytes} {s : List Char}
    (same : String.utf8EncodeChar c ++ rest = encodeChars s) :
    ∃ s', s = c :: s' ∧ rest = encodeChars s' := by
  have read : decodeFrom 0 [] (String.utf8EncodeChar c ++ rest) = .ok s := decode_eq_ok_iff.2 same
  rw [decodeFrom_encodeChar] at read
  simpa using decodeFrom_eq_ok read

/-! ## The first byte of a character -/

theorem not_continues_ofNat {n : Nat} (small : n < 256) (lead : n < 128 ∨ 191 < n) :
    ¬Continues (UInt8.ofNat n) := by
  unfold Continues
  rw [toNat_ofNat small]
  omega

theorem continues_ofNat_mod (n : Nat) : Continues (UInt8.ofNat (n % 64 + 128)) := by
  unfold Continues
  rw [toNat_ofNat (by omega)]
  omega

/-- Only the first byte of a character could stand at a start. -/
theorem utf8EncodeChar_eq_cons (c : Char) :
    ∃ a rest, String.utf8EncodeChar c = a :: rest ∧ ¬Continues a ∧ (∀ b ∈ rest, Continues b) ∧
      (c.toNat < 128 → rest = [] ∧ c = Char.ofUInt8 a) ∧ (128 ≤ c.toNat → 128 ≤ a.toNat) := by
  have bounds := toNat_bounds c
  -- By the number of bytes that the character has.
  by_cases one : c.toNat ≤ 127
  · refine ⟨_, _, utf8EncodeChar_one one, not_continues_ofNat (by omega) (by omega), by simp, ?_, by omega⟩
    intro
    refine ⟨rfl, Char.toNat_inj.1 ?_⟩
    rw [toNat_ofUInt8, toNat_ofNat (by omega)]
  by_cases two : c.toNat ≤ 2047
  · refine ⟨_, _, utf8EncodeChar_two (by omega) two, not_continues_ofNat (by omega) (by omega), ?_,
      by omega, fun _ => by rw [toNat_ofNat (by omega)]; omega⟩
    simp only [List.mem_singleton, forall_eq, continues_ofNat_mod]
  by_cases three : c.toNat ≤ 65535
  · refine ⟨_, _, utf8EncodeChar_three (by omega) three, not_continues_ofNat (by omega) (by omega), ?_,
      by omega, fun _ => by rw [toNat_ofNat (by omega)]; omega⟩
    simp only [List.mem_cons, List.not_mem_nil, or_false, forall_eq_or_imp, forall_eq,
      continues_ofNat_mod, and_self]
  · refine ⟨_, _, utf8EncodeChar_four (by omega), not_continues_ofNat (by omega) (by omega), ?_,
      by omega, fun _ => by rw [toNat_ofNat (by omega)]; omega⟩
    simp only [List.mem_cons, List.not_mem_nil, or_false, forall_eq_or_imp, forall_eq,
      continues_ofNat_mod, and_self]

theorem exists_byte_of_ascii {c : Char} (ascii : c.toNat < 128) :
    ∃ b, String.utf8EncodeChar c = [b] ∧ c = Char.ofUInt8 b := by
  obtain ⟨b, rest, bytes, -, -, short, -⟩ := utf8EncodeChar_eq_cons c
  obtain ⟨rfl, char⟩ := short ascii
  exact ⟨b, bytes, char⟩

/-- A text of one-byte characters is settled by its bytes. -/
theorem map_ofUInt8_encodeChars {s : List Char} (ascii : ∀ c ∈ s, c.toNat < 128) :
    (encodeChars s).map Char.ofUInt8 = s := by
  induction s with
  | nil => rfl
  | cons c s ih =>
    obtain ⟨b, bytes, rfl⟩ := exists_byte_of_ascii (ascii c (by simp))
    simp [bytes, ih fun d member => ascii d (by simp [member])]

/-- No byte of a longer character is the byte of a one-byte character. -/
theorem le_toNat_of_mem_utf8EncodeChar {c : Char} (long : 128 ≤ c.toNat) {b : UInt8}
    (member : b ∈ String.utf8EncodeChar c) : 128 ≤ b.toNat := by
  obtain ⟨a, rest, bytes, -, continues, -, lead⟩ := utf8EncodeChar_eq_cons c
  rw [bytes, List.mem_cons] at member
  rcases member with rfl | member
  · exact lead long
  · exact (continues b member).1

theorem ofUInt8_mem_of_mem_encodeChars {b : UInt8} (ascii : b.toNat < 128) {s : List Char}
    (member : b ∈ encodeChars s) : Char.ofUInt8 b ∈ s := by
  obtain ⟨c, inText, inChar⟩ := List.mem_flatMap.1 member
  by_cases long : 128 ≤ c.toNat
  · have above := le_toNat_of_mem_utf8EncodeChar long inChar
    omega
  · obtain ⟨byte, bytes, rfl⟩ := exists_byte_of_ascii (Nat.lt_of_not_le long)
    rw [bytes, List.mem_singleton] at inChar
    rwa [inChar]

end VectorFetch.Utf8

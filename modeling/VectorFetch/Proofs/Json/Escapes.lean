import VectorFetch.Proofs.Json.Grammar
import VectorFetch.Proofs.Text.Utf8

/-!
# Strings of the grammar and of the reader

The reader resolves the bytes between two quotes one at a time and decodes the result as a
whole; the grammar speaks of characters.

* `Escape.feed?`: the bytes that a string has resolved to behind more bytes.
* `feed?_spelled`: a string of the grammar is resolved to its characters.
* `exists_spelled_of_feed?`: bytes that are resolved to a well-formed text are a string of
  the grammar. A character that is only begun before an escape is never completed behind
  it, since no escape starts inside a character.
-/

namespace VectorFetch.Json

open Utf8

/-! ## Digits and letters of escapes -/

/-- The digits of base sixteen are those of the grammar. -/
theorem digit?_sixteen (c : Char) : Radix.digit? 16 c = hexDigitValue? c := by
  have le_iff : ∀ a b : Char, a ≤ b ↔ a.toNat ≤ b.toNat := fun _ _ => Iff.rfl
  simp only [Radix.digit?, Radix.value?, hexDigitValue?, le_iff, Char.reduceToNat]
  grind

theorem hexValue?_eq_foldl (digits : List Char) :
    hexValue? digits = digits.foldl
      (fun value c => value.bind fun v => (hexDigitValue? c).map fun d => 16 * v + d) (some 0) := by
  unfold hexValue?
  congr 1
  funext value c
  cases value with
  | none => rfl
  | some v =>
    simp only [Option.bind_eq_bind, Option.bind_some, digit?_sixteen]
    cases hexDigitValue? c <;> rfl

theorem hexValue?_eq (a b c d : Char) : hexValue? [a, b, c, d] = codeUnit? [a, b, c, d] := by
  rw [hexValue?_eq_foldl]
  simp only [List.foldl, codeUnit?]
  cases hexDigitValue? a <;> cases hexDigitValue? b <;> cases hexDigitValue? c <;>
    cases hexDigitValue? d <;> simp
  omega

theorem toNat_lt_of_hexDigitValue? {c : Char} {n : Nat} (digit : hexDigitValue? c = some n) :
    c.toNat < 128 := by
  have below : ∀ {limit : Char}, c ≤ limit → c.toNat ≤ limit.toNat := fun le => le
  unfold hexDigitValue? at digit
  split at digit
  next within => have := below within.2; change c.toNat ≤ 57 at this; omega
  next =>
    split at digit
    next within => have := below within.2; change c.toNat ≤ 102 at this; omega
    next =>
      split at digit
      next within => have := below within.2; change c.toNat ≤ 70 at this; omega
      next => cases digit

/-- Four digits, if they are a code unit at all. -/
theorem codeUnit?_eq_some {digits : List Char} {n : Nat} (code : codeUnit? digits = some n) :
    ∃ a b c d, digits = [a, b, c, d] ∧ ∀ x ∈ digits, x.toNat < 128 := by
  unfold codeUnit? at code
  split at code
  next a b c d =>
    split at code
    next p q r s first second third fourth =>
      refine ⟨a, b, c, d, rfl, ?_⟩
      simpa using ⟨toNat_lt_of_hexDigitValue? first, toNat_lt_of_hexDigitValue? second,
        toNat_lt_of_hexDigitValue? third, toNat_lt_of_hexDigitValue? fourth⟩
    next => cases code
  next => cases code

theorem escapedByte?_eq_some {x : Char} {b : UInt8} (letter : escapedByte? x = some b) :
    ∃ c, escapedChar? x = some c ∧ String.utf8EncodeChar c = [b] ∧ x.toNat < 128 := by
  unfold escapedByte? at letter
  split at letter <;> cases letter
  all_goals exact ⟨_, rfl, by decide, by decide⟩

theorem escapedChar?_eq_some {x c : Char} (letter : escapedChar? x = some c) :
    ∃ b, escapedByte? x = some b ∧ String.utf8EncodeChar c = [b] ∧ x.toNat < 128 ∧ x ≠ 'u' := by
  unfold escapedChar? at letter
  split at letter <;> cases letter
  all_goals exact ⟨_, rfl, by decide, by decide, by decide⟩

/-! ## Bytes of a string -/

/-- What a string has been resolved to behind more bytes, none of which ends it. -/
def Escape.feed? (read : Bytes) (escape : Escape) : Bytes → Option (Bytes × Escape)
  | [] => some (read, escape)
  | b :: rest =>
    match escape, Char.ofUInt8 b with
    | .outside, '"' => none
    | _, _ =>
      match escape.step read b with
      | .ok (read, escape) => feed? read escape rest
      | .error _ => none

attribute [local simp] Escape.feed? Escape.step

theorem Escape.feed?_append (read : Bytes) (escape : Escape) (a b : Bytes) :
    Escape.feed? read escape (a ++ b) =
      (Escape.feed? read escape a).bind fun (read, escape) => Escape.feed? read escape b := by
  induction a generalizing read escape with
  | nil => rfl
  | cons first rest ih =>
    simp only [List.cons_append, feed?]
    split
    · rfl
    · split
      · exact ih _ _
      · rfl

theorem ofUInt8_injective {a b : UInt8} (same : Char.ofUInt8 a = Char.ofUInt8 b) : a = b := by
  rw [← UInt8.toNat_inj, ← toNat_ofUInt8, ← toNat_ofUInt8, same]

/-- Only a quote outside escapes ends a string. -/
theorem feed?_cons {escape : Escape} {b : UInt8}
    (goesOn : escape = .outside → Char.ofUInt8 b ≠ '"') (read rest : Bytes) :
    Escape.feed? read escape (b :: rest) =
      match escape.step read b with
      | .ok (read, escape) => Escape.feed? read escape rest
      | .error _ => none := by
  rw [Escape.feed?.eq_def read escape (b :: rest)]
  dsimp only
  split
  next quote => exact absurd quote (goesOn rfl)
  next => rfl

theorem feed?_backslash (read rest : Bytes) :
    Escape.feed? read .outside (0x5C :: rest) = Escape.feed? read .start rest := by
  have backslash : Char.ofUInt8 0x5C = '\\' := by decide
  rw [feed?_cons fun _ => by decide]
  simp only [Escape.step, backslash, if_true]

theorem feed?_byte {b : UInt8} (notQuote : Char.ofUInt8 b ≠ '"')
    (notBackslash : Char.ofUInt8 b ≠ '\\') (read rest : Bytes) :
    Escape.feed? read .outside (b :: rest) =
      if b.toNat < 0x20 then none else Escape.feed? (b :: read) .outside rest := by
  have control : b < 0x20 ↔ b.toNat < 0x20 := UInt8.lt_iff_toNat_lt
  rw [feed?_cons fun _ => notQuote]
  simp only [Escape.step, if_neg notBackslash, control]
  by_cases small : b.toNat < 0x20
  · simp only [if_pos small]
  · simp only [if_neg small]

theorem feed?_unit (read rest : Bytes) :
    Escape.feed? read .start (0x75 :: rest) = Escape.feed? read (.digits []) rest := by
  have letter : Char.ofUInt8 0x75 = 'u' := by decide
  simp only [Escape.feed?, Escape.step, letter, if_true]

theorem feed?_letter {x : UInt8} (notUnit : Char.ofUInt8 x ≠ 'u') (read rest : Bytes) :
    Escape.feed? read .start (x :: rest) =
      match escapedByte? (Char.ofUInt8 x) with
      | some b => Escape.feed? (b :: read) .outside rest
      | none => none := by
  simp only [Escape.feed?, Escape.step, if_neg notUnit]
  cases escapedByte? (Char.ofUInt8 x) <;> rfl

theorem feed?_digits (read : Bytes) (a b c d : UInt8) (rest : Bytes) :
    Escape.feed? read (.digits []) (a :: b :: c :: d :: rest) =
      match codeUnit? ([a, b, c, d].map Char.ofUInt8) with
      | none => none
      | some n =>
        if IsLowSurrogate n then none
        else if IsHighSurrogate n then Escape.feed? read (.lowStart n) rest
        else Escape.feed? (pushChar read n) .outside rest := by
  simp only [Escape.feed?, Escape.step, List.length_nil, List.length_cons, Nat.reduceAdd,
    Nat.reduceLT, if_true, if_false, escapeValue?, List.reverse_cons, List.reverse_nil,
    List.nil_append, List.cons_append, List.map_cons, List.map_nil, hexValue?_eq]
  cases codeUnit? [Char.ofUInt8 a, Char.ofUInt8 b, Char.ofUInt8 c, Char.ofUInt8 d] with
  | none => rfl
  | some n =>
    by_cases low : IsLowSurrogate n
    · simp only [if_pos low, if_pos (show 0xDC00 ≤ n ∧ n ≤ 0xDFFF from low)]
    · by_cases high : IsHighSurrogate n
      · simp only [if_neg low, if_neg (show ¬(0xDC00 ≤ n ∧ n ≤ 0xDFFF) from low), if_pos high,
          if_pos (show 0xD800 ≤ n ∧ n ≤ 0xDBFF from high)]
      · simp only [if_neg low, if_neg (show ¬(0xDC00 ≤ n ∧ n ≤ 0xDFFF) from low), if_neg high,
          if_neg (show ¬(0xD800 ≤ n ∧ n ≤ 0xDBFF) from high)]

theorem feed?_lowDigits (high : Nat) (read : Bytes) (a b c d : UInt8) (rest : Bytes) :
    Escape.feed? read (.lowDigits high []) (a :: b :: c :: d :: rest) =
      match codeUnit? ([a, b, c, d].map Char.ofUInt8) with
      | none => none
      | some n =>
        if IsLowSurrogate n then
          Escape.feed? ((String.utf8EncodeChar (pairedChar high n)).reverse ++ read) .outside rest
        else none := by
  simp only [Escape.feed?, Escape.step, List.length_nil, List.length_cons, Nat.reduceAdd,
    Nat.reduceLT, if_true, if_false, escapeValue?, List.reverse_cons, List.reverse_nil,
    List.nil_append, List.cons_append, List.map_cons, List.map_nil, hexValue?_eq]
  cases codeUnit? [Char.ofUInt8 a, Char.ofUInt8 b, Char.ofUInt8 c, Char.ofUInt8 d] with
  | none => rfl
  | some n =>
    by_cases low : IsLowSurrogate n
    · simp only [if_pos low, if_pos (show 0xDC00 ≤ n ∧ n ≤ 0xDFFF from low)]
      rfl
    · simp only [if_neg low, if_neg (show ¬(0xDC00 ≤ n ∧ n ≤ 0xDFFF) from low)]

/-- Fewer than four digits do not end an escape. -/
theorem four_bytes_of_feed? {read read' body : Bytes} {escape : Escape}
    (digits : escape = .digits [] ∨ ∃ high, escape = .lowDigits high [])
    (fed : Escape.feed? read escape body = some (read', .outside)) :
    ∃ a b c d rest, body = a :: b :: c :: d :: rest := by
  match body with
  | [] | [_] | [_, _] | [_, _, _] =>
    rcases digits with rfl | ⟨high, rfl⟩ <;> simp at fed
  | a :: b :: c :: d :: rest => exact ⟨a, b, c, d, rest, rfl⟩

/-- The two bytes between the halves of a surrogate pair. -/
theorem feed?_lowStart (high : Nat) (read rest : Bytes) :
    Escape.feed? read (.lowStart high) (0x5C :: 0x75 :: rest) =
      Escape.feed? read (.lowDigits high []) rest := by
  have backslash : Char.ofUInt8 0x5C = '\\' := by decide
  have letter : Char.ofUInt8 0x75 = 'u' := by decide
  simp only [Escape.feed?, Escape.step, backslash, letter, if_true]

theorem eq_of_feed?_lowStart {high : Nat} {read read' body : Bytes}
    (fed : Escape.feed? read (.lowStart high) body = some (read', .outside)) :
    ∃ rest, body = 0x5C :: 0x75 :: rest := by
  cases body with
  | nil => simp at fed
  | cons a more =>
    simp only [Escape.feed?, Escape.step] at fed
    -- Behind the first half anything but another escape with digits is refused.
    by_cases backslash : Char.ofUInt8 a = '\\'
    · rw [if_pos backslash] at fed
      cases more with
      | nil => simp at fed
      | cons b rest =>
        simp only [Escape.feed?, Escape.step] at fed
        by_cases letter : Char.ofUInt8 b = 'u'
        · exact ⟨rest, by
            rw [ofUInt8_injective (b := 0x5C) backslash, ofUInt8_injective (b := 0x75) letter]⟩
        · rw [if_neg letter] at fed
          cases fed
    · rw [if_neg backslash] at fed
      cases fed

/-! ## What the reader resolves is a string of the grammar -/

/-- `SpellsBytes resolved body`: the bytes `body` between quotes resolve to `resolved`.
Bytes of a longer character count one by one. -/
inductive SpellsBytes : Bytes → Bytes → Prop
  | nil : SpellsBytes [] []
  | byte {b : UInt8} {resolved body : Bytes} (notControl : 0x20 ≤ b.toNat)
      (notQuote : Char.ofUInt8 b ≠ '"') (notBackslash : Char.ofUInt8 b ≠ '\\')
      (rest : SpellsBytes resolved body) : SpellsBytes (b :: resolved) (b :: body)
  | escape {c : Char} {text : List Char} {resolved body : Bytes} (first : SpellsEscape c text)
      (rest : SpellsBytes resolved body) :
      SpellsBytes (String.utf8EncodeChar c ++ resolved) (encodeChars text ++ body)

theorem encodeChars_digits {digits : Bytes} {n : Nat}
    (code : codeUnit? (digits.map Char.ofUInt8) = some n) :
    encodeChars (digits.map Char.ofUInt8) = digits := by
  apply encodeChars_map_ofUInt8
  intro b member
  obtain ⟨-, -, -, -, -, ascii⟩ := codeUnit?_eq_some code
  rw [← toNat_ofUInt8]
  exact ascii _ (List.mem_map_of_mem member)

/-- The bytes behind the first half of a surrogate pair, up to the end of the second one. -/
theorem low_of_feed? {m : Nat} {read read' body : Bytes}
    (fed : Escape.feed? read (.lowStart m) body = some (read', .outside)) :
    ∃ digits n rest, body = 0x5C :: 0x75 :: (digits ++ rest) ∧
      codeUnit? (digits.map Char.ofUInt8) = some n ∧ IsLowSurrogate n ∧
      Escape.feed? ((String.utf8EncodeChar (pairedChar m n)).reverse ++ read) .outside rest =
        some (read', .outside) := by
  obtain ⟨rest, rfl⟩ := eq_of_feed?_lowStart fed
  rw [feed?_lowStart] at fed
  obtain ⟨a, b, c, d, rest, rfl⟩ := four_bytes_of_feed? (.inr ⟨m, rfl⟩) fed
  rw [feed?_lowDigits] at fed
  split at fed
  next => cases fed
  next n code =>
    split at fed
    next low => exact ⟨[a, b, c, d], n, rest, rfl, code, low, fed⟩
    next => cases fed

/-- The bytes behind the letter of an escape with digits, up to its end. -/
theorem unit_of_feed? {read read' body : Bytes}
    (fed : Escape.feed? read (.digits []) body = some (read', .outside)) :
    ∃ c text rest, SpellsEscape c ('\\' :: 'u' :: text) ∧ body = encodeChars text ++ rest ∧
      Escape.feed? ((String.utf8EncodeChar c).reverse ++ read) .outside rest =
        some (read', .outside) := by
  have unit : String.utf8EncodeChar 'u' = [0x75] := by decide
  have backslash : String.utf8EncodeChar '\\' = [0x5C] := by decide
  -- Four digits give one unit, which is a character unless it is half of a pair.
  obtain ⟨a, b, c, d, rest, rfl⟩ := four_bytes_of_feed? (.inl rfl) fed
  rw [feed?_digits] at fed
  split at fed
  next => cases fed
  next m code =>
    have bytes := encodeChars_digits code
    split at fed
    next => cases fed
    next low =>
      split at fed
      next high =>
        obtain ⟨digits, n, rest, rfl, code', low', fed⟩ := low_of_feed? fed
        have bytes' := encodeChars_digits code'
        refine ⟨_, _, rest, .pair code high code' low', ?_, fed⟩
        rw [List.append_eq, encodeChars_append, encodeChars_cons, encodeChars_cons, bytes, bytes',
          unit, backslash]
        rfl
      next high =>
        refine ⟨_, _, rest, .unit code high low, ?_, fed⟩
        rw [bytes]
        rfl

/-- The bytes behind a backslash, up to the end of the escape. -/
theorem escape_of_feed? {read read' body : Bytes}
    (fed : Escape.feed? read .start body = some (read', .outside)) :
    ∃ c text rest, SpellsEscape c ('\\' :: text) ∧ body = encodeChars text ++ rest ∧
      Escape.feed? ((String.utf8EncodeChar c).reverse ++ read) .outside rest =
        some (read', .outside) := by
  cases body with
  | nil => simp at fed
  | cons x more =>
    by_cases letter : Char.ofUInt8 x = 'u'
    · have unit : String.utf8EncodeChar 'u' = [0x75] := by decide
      obtain rfl : x = 0x75 := ofUInt8_injective letter
      rw [feed?_unit] at fed
      obtain ⟨c, text, rest, escape, rfl, outside⟩ := unit_of_feed? fed
      refine ⟨c, 'u' :: text, rest, escape, ?_, outside⟩
      rw [encodeChars_cons, unit]
      rfl
    · rw [feed?_letter letter] at fed
      split at fed
      next byte escaped =>
        obtain ⟨c, spelled, bytes, ascii⟩ := escapedByte?_eq_some escaped
        refine ⟨c, [Char.ofUInt8 x], more, .letter spelled, ?_, ?_⟩
        · rw [encodeChars_cons, utf8EncodeChar_ofUInt8 (by rwa [← toNat_ofUInt8])]
          rfl
        · rw [bytes]
          exact fed
      next => cases fed

/-- Bytes that leave the reader outside an escape. -/
theorem spellsBytes_of_feed? {read read' body : Bytes}
    (fed : Escape.feed? read .outside body = some (read', .outside)) :
    ∃ resolved, read' = resolved.reverse ++ read ∧ SpellsBytes resolved body := by
  -- An escape is several bytes long, so the induction is on the length.
  induction size : body.length using Nat.strongRecOn generalizing read body with
  | ind n ih =>
    cases body with
    | nil =>
      simp only [Escape.feed?, Option.some.injEq, Prod.mk.injEq, and_true] at fed
      exact ⟨[], by simp [fed], .nil⟩
    | cons b rest =>
      by_cases quote : Char.ofUInt8 b = '"'
      · simp [Escape.feed?, quote] at fed
      by_cases backslash : Char.ofUInt8 b = '\\'
      · obtain rfl : b = 0x5C := ofUInt8_injective backslash
        rw [feed?_backslash] at fed
        obtain ⟨c, text, behind, escape, rfl, outside⟩ := escape_of_feed? fed
        obtain ⟨resolved, rfl, spelled⟩ := ih behind.length (by simp at size; omega) outside rfl
        exact ⟨String.utf8EncodeChar c ++ resolved, by simp, .escape escape spelled⟩
      · rw [feed?_byte quote backslash] at fed
        split at fed
        next => cases fed
        next notControl =>
          obtain ⟨resolved, rfl, spelled⟩ := ih rest.length (by simp at size; omega) fed rfl
          exact ⟨b :: resolved, by simp, .byte (by omega) quote backslash spelled⟩

/-- Bytes inside a character stand for themselves. -/
theorem SpellsBytes.of_continues {inside behind body : Bytes}
    (spelled : SpellsBytes (inside ++ behind) body) (continues : ∀ b ∈ inside, Continues b) :
    ∃ rest, body = inside ++ rest ∧ SpellsBytes behind rest := by
  induction inside generalizing body with
  | nil => exact ⟨body, rfl, spelled⟩
  | cons b inside ih =>
    generalize whole : b :: inside ++ behind = resolved at spelled
    cases spelled with
    | nil => cases whole
    | byte _ _ _ spelled =>
      cases whole
      obtain ⟨rest, rfl, behind⟩ := ih spelled fun c member => continues c (by simp [member])
      exact ⟨rest, rfl, behind⟩
    | @escape c _ _ _ _ _ =>
      -- An escape gives a whole character, which no continuing byte begins.
      obtain ⟨a, rest, bytes, start, -⟩ := utf8EncodeChar_eq_cons c
      rw [bytes] at whole
      exact absurd ((List.cons.inj whole).1 ▸ continues b (by simp)) start

theorem SpellsEscape.eq_cons {c : Char} {text : List Char} (escape : SpellsEscape c text) :
    ∃ tail, text = '\\' :: tail := by
  cases escape <;> exact ⟨_, rfl⟩

/-- Bytes that resolve to a well-formed text are well formed themselves. -/
theorem spellsText_of_spellsBytes {s : List Char} {body : Bytes}
    (spelled : SpellsBytes (encodeChars s) body) :
    ∃ text, body = encodeChars text ∧ SpellsText s text := by
  induction size : body.length using Nat.strongRecOn generalizing s body with
  | ind n ih =>
    generalize whole : encodeChars s = resolved at spelled
    cases spelled with
    | nil =>
      have none : s = [] := encodeChars_injective (whole.trans encodeChars_nil.symm)
      exact ⟨[], rfl, none ▸ .nil⟩
    | @escape c text _ body escape spelled =>
      obtain ⟨s, rfl, rfl⟩ := encodeChar_append_eq_encodeChars whole.symm
      obtain ⟨tail, rfl⟩ := escape.eq_cons
      have positive := Char.utf8Size_pos '\\'
      obtain ⟨more, rfl, rest⟩ := ih body.length (by simp at size; omega) spelled rfl
      exact ⟨'\\' :: tail ++ more, by simp, .escape escape rest⟩
    | @byte b _ body notControl notQuote notBackslash spelled =>
      cases s with
      | nil => cases whole
      | cons c s =>
        obtain ⟨a, inside, bytes, -, continues, short, long⟩ := utf8EncodeChar_eq_cons c
        rw [encodeChars_cons, bytes] at whole
        cases whole
        -- The first byte starts `c`, so the bytes that continue it follow unescaped.
        obtain ⟨behind, rfl, spelledRest⟩ := spelled.of_continues continues
        obtain ⟨text, rfl, rest⟩ := ih behind.length (by simp at size; omega) spelledRest rfl
        refine ⟨c :: text, by simp [bytes], .plain ?_ rest⟩
        by_cases ascii : c.toNat < 128
        · obtain ⟨-, rfl⟩ := short ascii
          exact ⟨by rwa [toNat_ofUInt8], notQuote, notBackslash⟩
        · refine ⟨by omega, ?_, ?_⟩ <;> (rintro rfl; revert ascii; decide)

/-- What the reader resolves to a well-formed text is a string of the grammar. -/
theorem exists_spelled_of_feed? {read body : Bytes} {s : List Char}
    (fed : Escape.feed? [] .outside body = some (read, .outside))
    (decoded : decode read.reverse = .ok s) : ∃ text, body = encodeChars text ∧ SpellsText s text := by
  obtain ⟨resolved, rfl, spelled⟩ := spellsBytes_of_feed? fed
  rw [List.append_nil, List.reverse_reverse] at decoded
  exact spellsText_of_spellsBytes (decode_eq_ok_iff.1 decoded ▸ spelled)

/-! ## A string of the grammar is resolved to its characters -/

theorem bytes_of_codeUnit? {digits : List Char} {n : Nat} (code : codeUnit? digits = some n) :
    ∃ a b c d, encodeChars digits = [a, b, c, d] ∧
      codeUnit? ([a, b, c, d].map Char.ofUInt8) = some n := by
  obtain ⟨p, q, r, s, rfl, ascii⟩ := codeUnit?_eq_some code
  obtain ⟨a, first, rfl⟩ := exists_byte_of_ascii (ascii p (by simp))
  obtain ⟨b, second, rfl⟩ := exists_byte_of_ascii (ascii q (by simp))
  obtain ⟨c, third, rfl⟩ := exists_byte_of_ascii (ascii r (by simp))
  obtain ⟨d, fourth, rfl⟩ := exists_byte_of_ascii (ascii s (by simp))
  exact ⟨a, b, c, d, by simp [first, second, third, fourth], code⟩

theorem feed?_ofPlain {bytes : Bytes} (notControl : ∀ b ∈ bytes, 0x20 ≤ b.toNat)
    (notQuote : ∀ b ∈ bytes, Char.ofUInt8 b ≠ '"') (notBackslash : ∀ b ∈ bytes, Char.ofUInt8 b ≠ '\\')
    (read rest : Bytes) :
    Escape.feed? read .outside (bytes ++ rest) =
      Escape.feed? (bytes.reverse ++ read) .outside rest := by
  induction bytes generalizing read with
  | nil => rfl
  | cons b bytes ih =>
    have large := notControl b (by simp)
    rw [List.cons_append, feed?_byte (notQuote b (by simp)) (notBackslash b (by simp)),
      if_neg (by omega), ih (fun c member => notControl c (by simp [member]))
        (fun c member => notQuote c (by simp [member]))
        (fun c member => notBackslash c (by simp [member]))]
    simp

theorem feed?_plain {c : Char} (plain : IsPlain c) (read rest : Bytes) :
    Escape.feed? read .outside (String.utf8EncodeChar c ++ rest) =
      Escape.feed? ((String.utf8EncodeChar c).reverse ++ read) .outside rest := by
  by_cases ascii : c.toNat < 128
  · obtain ⟨b, bytes, rfl⟩ := exists_byte_of_ascii ascii
    have large := plain.notControl
    rw [toNat_ofUInt8] at large
    rw [bytes]
    exact feed?_ofPlain (by simpa using large) (by simpa using plain.notQuote)
      (by simpa using plain.notBackslash) read rest
  · have large : ∀ b ∈ String.utf8EncodeChar c, 128 ≤ b.toNat := fun b member =>
      le_toNat_of_mem_utf8EncodeChar (by omega) member
    have ne : ∀ x : Char, x.toNat < 128 → ∀ b ∈ String.utf8EncodeChar c, Char.ofUInt8 b ≠ x := by
      rintro _ small b member rfl
      rw [toNat_ofUInt8] at small
      have := large b member
      omega
    exact feed?_ofPlain (fun b member => by have := large b member; omega) (ne '"' (by decide))
      (ne '\\' (by decide)) read rest

/-- An escape is resolved to the bytes of its character. -/
theorem feed?_escape {c : Char} {text : List Char} (escape : SpellsEscape c text)
    (read rest : Bytes) :
    Escape.feed? read .outside (encodeChars text ++ rest) =
      Escape.feed? ((String.utf8EncodeChar c).reverse ++ read) .outside rest := by
  have unit : String.utf8EncodeChar 'u' = [0x75] := by decide
  have backslash : String.utf8EncodeChar '\\' = [0x5C] := by decide
  cases escape with
  | letter escaped =>
    obtain ⟨b, byte, bytes, ascii, notUnit⟩ := escapedChar?_eq_some escaped
    obtain ⟨x, spelled, rfl⟩ := exists_byte_of_ascii ascii
    rw [encodeChars_cons, encodeChars_cons, encodeChars_nil, backslash, spelled]
    simp only [List.cons_append, List.nil_append]
    rw [feed?_backslash, feed?_letter notUnit, byte, bytes]
    rfl
  | unit code high low =>
    obtain ⟨p, q, r, s, bytes, code⟩ := bytes_of_codeUnit? code
    rw [encodeChars_cons, encodeChars_cons, backslash, unit, bytes]
    simp only [List.cons_append, List.nil_append]
    rw [feed?_backslash, feed?_unit, feed?_digits, code]
    simp only [if_neg low, if_neg high]
    rfl
  -- Two escapes with digits for a single character.
  | @pair _ _ m n first high second low =>
    obtain ⟨p, q, r, s, bytes, code⟩ := bytes_of_codeUnit? first
    obtain ⟨p', q', r', s', bytes', code'⟩ := bytes_of_codeUnit? second
    rw [encodeChars_append, encodeChars_cons, encodeChars_cons, encodeChars_cons, encodeChars_cons,
      backslash, unit, bytes, bytes']
    simp only [List.cons_append, List.nil_append]
    rw [feed?_backslash, feed?_unit, feed?_digits, code]
    simp only [if_neg high.not_low, if_pos high]
    rw [feed?_lowStart, feed?_lowDigits, code']
    simp only [if_pos low]

/-- A string of the grammar is resolved to the bytes of its characters. -/
theorem feed?_spelled {s text : List Char} (spelled : SpellsText s text) (read : Bytes) :
    Escape.feed? read .outside (encodeChars text) =
      some ((encodeChars s).reverse ++ read, .outside) := by
  induction spelled generalizing read with
  | nil => rfl
  | plain plain rest ih => simp [feed?_plain plain, ih]
  | escape first rest ih => simp [feed?_escape first, ih]

end VectorFetch.Json

import Mathlib.Data.List.Basic
import VectorFetch.Key
import VectorFetch.Proofs.Text.Utf8

/-!
# Keys and their texts

* `exists_text`: a text of the right shape is the text of a key.
* `parse_eq_ok_iff`, `parse_eq_error_iff`: what is read, and what is handed back.
* `parse_exact`: reading accepts exactly the texts that are written, and no other spelling of a
  number.
-/

namespace VectorFetch.Key

/-! ## Digits -/

/-- The digits that texts of keys are made of. -/
def digits : List Char := (List.range 16).map Nat.digitChar

theorem digit_mem_digits {n : Nat} (h : n < 16) : n.digitChar ∈ digits :=
  List.mem_map_of_mem (List.mem_range.2 h)

theorem exists_digitByte {b : UInt8} (counts : isDigitByte b) : ∃ n < 16, b = digitByte n := by
  simp only [isDigitByte, Bool.or_eq_true, Bool.and_eq_true, decide_eq_true_eq,
    UInt8.le_iff_toNat_le] at counts
  rcases counts with ⟨low, high⟩ | ⟨low, high⟩
  · change 48 ≤ b.toNat at low
    change b.toNat ≤ 57 at high
    refine ⟨b.toNat - 48, by omega, ?_⟩
    rw [digitByte, if_pos (by omega), Nat.add_sub_cancel' low, UInt8.ofNat_toNat]
  · change 97 ≤ b.toNat at low
    change b.toNat ≤ 102 at high
    refine ⟨b.toNat - 87, by omega, ?_⟩
    rw [digitByte, if_neg (by omega), Nat.add_sub_cancel' (by omega), UInt8.ofNat_toNat]

/-! ## Texts -/

theorem toList_text (key : Key) :
    key.text.toList = [(key.index / 16).digitChar, (key.index % 16).digitChar] :=
  String.toList_ofList

theorem exists_text {s : String} (formed : isWellFormed (Utf8.encode s)) :
    ∃ key : Key, s = key.text := by
  simp only [isWellFormed, Bool.and_eq_true, decide_eq_true_eq] at formed
  obtain ⟨two, counts⟩ := formed
  obtain ⟨a, b, bytes⟩ := List.length_eq_two.1 two
  rw [bytes, List.all_cons, List.all_cons, Bool.and_eq_true, Bool.and_eq_true] at counts
  obtain ⟨high, highBound, rfl⟩ := exists_digitByte counts.1
  obtain ⟨low, lowBound, rfl⟩ := exists_digitByte counts.2.1
  have place : (ofNat (16 * high + low)).index = 16 * high + low := index_ofNat (by omega)
  -- Texts are told apart by their bytes.
  refine ⟨ofNat (16 * high + low), String.toList_inj.1 (Utf8.encodeChars_injective ?_)⟩
  have written := encode_text (ofNat (16 * high + low))
  rw [place, show (16 * high + low) / 16 = high by omega,
    show (16 * high + low) % 16 = low by omega] at written
  exact bytes.trans written.symm

/-! ## Reading -/

theorem parse_of_not_isWellFormed {s : String} (formed : ¬isWellFormed (Utf8.encode s)) :
    parse s = .error ⟨s⟩ := by
  rw [parse, if_neg formed]

theorem parse_eq_ok_iff {s : String} {key : Key} : parse s = .ok key ↔ s = key.text := by
  constructor
  · intro read
    by_cases formed : isWellFormed (Utf8.encode s)
    · obtain ⟨own, rfl⟩ := exists_text formed
      rw [parse_text] at read
      exact congrArg text (Except.ok.inj read)
    · rw [parse_of_not_isWellFormed formed] at read
      cases read
  · rintro rfl
    exact parse_text key

theorem parse_eq_error_iff {s : String} {e : InvalidKey} :
    parse s = .error e ↔ e = ⟨s⟩ ∧ ∀ key : Key, s ≠ key.text := by
  by_cases formed : isWellFormed (Utf8.encode s)
  · obtain ⟨key, rfl⟩ := exists_text formed
    rw [parse_text]
    exact ⟨nofun, fun other => absurd rfl (other.2 key)⟩
  · have rejected := parse_of_not_isWellFormed formed
    have other : ∀ key : Key, s ≠ key.text := fun key same => by
      rw [parse_eq_ok_iff.2 same] at rejected
      cases rejected
    simp [rejected, other, eq_comm]

theorem parse_eq_error_of_ne {s : String} (other : ∀ key : Key, s ≠ key.text) :
    parse s = .error ⟨s⟩ :=
  parse_eq_error_iff.2 ⟨rfl, other⟩

/-- Exactly the texts of keys are read, each as its key, and everything else is handed back as it
is. Where the shape is right the number can be read. One character more or less, or one that is no
lowercase digit, is enough for a text to be rejected. -/
theorem parse_exact (s : String) :
    (∀ key, parse s = .ok key ↔ s = key.text) ∧
    (∀ e, parse s = .error e ↔ e = ⟨s⟩ ∧ ∀ key : Key, s ≠ key.text) ∧
    (isWellFormed (Utf8.encode s) → ∃ key : Key, s = key.text ∧
      Radix.read 16 (Utf8.encode s) = .ok key.index) ∧
    (s.toList.length ≠ 2 → parse s = .error ⟨s⟩) ∧
    ∀ c ∈ s.toList, c ∉ digits → parse s = .error ⟨s⟩ := by
  refine ⟨fun key => parse_eq_ok_iff, fun e => parse_eq_error_iff, fun formed => ?_,
    fun length => parse_eq_error_of_ne ?_, fun c member strange => parse_eq_error_of_ne ?_⟩
  · obtain ⟨key, rfl⟩ := exists_text formed
    have bound := key.index_lt
    refine ⟨key, rfl, ?_⟩
    rw [encode_text, read_digits (by omega) (by omega), Nat.div_add_mod]
  · rintro key rfl
    exact length (by rw [toList_text]; rfl)
  · rintro key rfl
    have bound := key.index_lt
    rw [toList_text, List.mem_cons, List.mem_singleton] at member
    rcases member with rfl | rfl
    · exact strange (digit_mem_digits (by omega))
    · exact strange (digit_mem_digits (by omega))

/-- A key, a character of two bytes, and a number with a sign, which is read where the shape does
not count. -/
theorem parse_exact_of_sign :
    (isWellFormed (Utf8.encode "7f") ∧ ∃ key : Key, "7f" = key.text ∧
      Radix.read 16 (Utf8.encode "7f") = .ok key.index) ∧
    ((Utf8.encode "é").length = 2 ∧ "é".toList.length ≠ 2 ∧ parse "é" = .error ⟨"é"⟩) ∧
    (Radix.read 16 (Utf8.encode "+f") = .ok 15 ∧ '+' ∈ "+f".toList ∧ '+' ∉ digits ∧
      parse "+f" = .error ⟨"+f"⟩) := by
  have formed : isWellFormed (Utf8.encode "7f") := by decide
  have one : "é".toList.length ≠ 2 := by decide
  have sign : '+' ∈ "+f".toList := by decide
  have strange : '+' ∉ digits := by decide
  exact ⟨⟨formed, (parse_exact "7f").2.2.1 formed⟩,
    ⟨by decide, one, (parse_exact "é").2.2.2.1 one⟩,
    ⟨by decide, sign, strange, (parse_exact "+f").2.2.2.2 '+' sign strange⟩⟩

end VectorFetch.Key

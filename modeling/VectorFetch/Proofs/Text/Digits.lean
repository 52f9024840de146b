import Mathlib.Data.List.Basic

/-!
# Numbers in decimal digits

* `eq_zero_of_head?_toDigits`: no zero stands in front.
* `isDigit_of_mem_toDigits`: nothing but digits is written.
* `foldl_toDigits`: the digits of a number give the number.
-/

namespace VectorFetch

/-- Only zero is written with a zero in front. -/
theorem eq_zero_of_head?_toDigits {n : Nat} (zero : (Nat.toDigits 10 n).head? = some '0') :
    n = 0 := by
  induction n using Nat.strongRecOn with
  | ind n ih =>
    rw [Nat.toDigits_eq_if (by decide)] at zero
    split at zero
    next small =>
      have all : ∀ n < 10, n.digitChar = '0' → n = 0 := by decide
      exact all n small (Option.some.inj zero)
    next large =>
      obtain ⟨c, digits, spelled⟩ := List.exists_cons_of_ne_nil (@Nat.toDigits_ne_nil (n / 10) 10)
      rw [spelled, List.cons_append] at zero
      have none := ih (n / 10) (by omega) (spelled ▸ zero)
      omega

theorem isDigit_of_mem_toDigits {n : Nat} {c : Char} (member : c ∈ Nat.toDigits 10 n) :
    '0' ≤ c && c ≤ '9' := by
  have digit := Nat.isDigit_of_mem_toDigits (by decide) (by decide) member
  simp only [Char.isDigit, Bool.and_eq_true, decide_eq_true_eq] at digit ⊢
  exact digit

theorem foldl_toDigits (n : Nat) :
    (Nat.toDigits 10 n).foldl (fun n c => n * 10 + (c.toNat - 48)) 0 = n := by
  have read := @Nat.ofDigitChars_ten_toDigits n
  simpa [Nat.ofDigitChars_eq_foldl, Nat.mul_comm] using read

end VectorFetch

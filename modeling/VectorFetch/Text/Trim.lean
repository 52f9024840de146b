/-!
# Texts without what surrounds them

* `Text.trim`: leaves out the characters of a set at both ends. By `trim_eq_self` nothing is left
  out of a text that neither begins nor ends with one of them.
-/

namespace VectorFetch.Text

variable {p : Char → Bool} {s : List Char}

/-- A text without the characters of a set around it. -/
def trim (p : Char → Bool) (s : List Char) : List Char :=
  ((s.dropWhile p).reverse.dropWhile p).reverse

theorem dropWhile_eq_self (first : ∀ c ∈ s.head?, ¬p c) : s.dropWhile p = s := by
  cases s with
  | nil => rfl
  | cons c rest => exact List.dropWhile_cons_of_neg (first c rfl)

theorem trim_eq_self (first : ∀ c ∈ s.head?, ¬p c) (last : ∀ c ∈ s.getLast?, ¬p c) :
    trim p s = s := by
  rw [trim, dropWhile_eq_self first, dropWhile_eq_self (by rwa [List.head?_reverse]),
    List.reverse_reverse]

end VectorFetch.Text

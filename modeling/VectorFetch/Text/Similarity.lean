/-!
# Similar words

`Similarity.of` compares two words: how many characters they share at about the same
place, and how many of these stand in another order. The similarity is a fraction
between zero and one.
-/

namespace VectorFetch.Text

/-- A fraction. -/
structure Similarity where
  numerator : Nat
  denominator : Nat
  deriving DecidableEq, Repr

namespace Similarity

/-- The first place of a character between two bounds that is not taken. -/
def partner? (c : Char) (low high : Nat) (taken : List Nat) (word : List Char) : Option Nat :=
  (word.zipIdx.find? fun (d, j) => low ≤ j && j < high && d = c && !taken.contains j).map Prod.snd

/-- The characters of a word from place `i` on that have a partner in another word, each
with the place of the partner. Each place is a partner once. -/
def partners (range : Nat) (word : List Char) (i : Nat) (taken : List Nat) :
    List Char → List (Char × Nat)
  | [] => []
  | c :: rest =>
    match partner? c (i - range) (i + range + 1) taken word with
    | some j => (c, j) :: partners range word (i + 1) (j :: taken) rest
    | none => partners range word (i + 1) taken rest

/-- The similarity of two words. -/
def of (a b : List Char) : Similarity :=
  let paired := partners (max a.length b.length / 2 - 1) b 0 [] a
  let places := paired.map Prod.snd
  let inB := (b.zipIdx.filter fun (_, j) => places.contains j).map Prod.fst
  let swapped := ((paired.map Prod.fst).zip inB).filter fun (c, d) => c ≠ d
  let m := paired.length
  if m = 0 then ⟨0, 1⟩
  else
    ⟨m * m * (a.length + b.length) + (m - swapped.length / 2) * a.length * b.length,
      3 * m * a.length * b.length⟩

/-- Whether a similarity is at least seven tenths. -/
def isClose (s : Similarity) : Bool := 7 * s.denominator ≤ 10 * s.numerator

/-- Whether a similarity is at most another one. -/
def le (s t : Similarity) : Bool := s.numerator * t.denominator ≤ t.numerator * s.denominator

/-- The word of a list that is closest to another word, if any is close. Of two that are
equally close it is the later one. -/
def closest? (word : String) (candidates : List String) : Option String :=
  let close := candidates.filter fun c => (of word.toList c.toList).isClose
  close.foldl
    (fun best c =>
      match best with
      | none => some c
      | some b => if (of word.toList b.toList).le (of word.toList c.toList) then some c else some b)
    none

end Similarity

end VectorFetch.Text

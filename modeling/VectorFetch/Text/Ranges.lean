/-!
# Ranges of code points

A property of characters is kept as the ranges of the code points that have it, in
increasing order and with both ends included. `inRanges` looks one up.
-/

namespace VectorFetch.Text

/-- Whether a code point lies in one of the ranges from index `low` up to but
without index `high`, by halving. -/
def inRanges (ranges : Array (Nat × Nat)) (n : Nat) (low high : Nat) : Bool :=
  if low < high then
    let mid := (low + high) / 2
    match ranges[mid]? with
    | some (first, last) =>
      if n < first then inRanges ranges n low mid
      else if last < n then inRanges ranges n (mid + 1) high
      else true
    | none => false
  else false
termination_by high - low

end VectorFetch.Text

import Mathlib.Data.List.Basic

/-!
# Texts that are cut into pieces

* `of_mem_splitOnP`, `of_mem_splitOn`: a piece has what the whole has between its separators.
* `mem_intercalate`: what the whole of some pieces has.
* `span_append`: a whole is cut where its front ends.
* `mapM_eq_some_iff`: pieces of which each one is read.
-/

namespace VectorFetch

variable {α : Type}

/-- A piece has elements of the whole, and no separator. -/
theorem of_mem_splitOnP {p : α → Bool} {whole piece : List α} (member : piece ∈ whole.splitOnP p) :
    ∀ x ∈ piece, x ∈ whole ∧ p x = false := by
  induction whole generalizing piece with
  | nil =>
    rw [List.splitOnP_nil, List.mem_singleton] at member
    simp [member]
  | cons a whole ih =>
    -- A later piece is one of the rest; the first piece may be longer by `a`.
    have later : ∀ piece ∈ whole.splitOnP p, ∀ x ∈ piece, x ∈ a :: whole ∧ p x = false :=
      fun piece member x here => (ih member x here).imp_left (List.mem_cons_of_mem a)
    rw [List.splitOnP_cons_eq_if_modifyHead] at member
    split at member
    next =>
      rcases List.mem_cons.1 member with rfl | behind
      · nofun
      · exact later piece behind
    next other =>
      obtain ⟨first, rest, pieces⟩ := List.exists_cons_of_ne_nil (List.splitOnP_ne_nil p whole)
      rw [pieces] at later
      rw [pieces, List.modifyHead_cons] at member
      rcases List.mem_cons.1 member with rfl | behind
      · have here := later first List.mem_cons_self
        simpa [other] using here
      · exact later piece (List.mem_cons_of_mem first behind)

theorem of_mem_splitOn [BEq α] [LawfulBEq α] {sep : α} {whole piece : List α}
    (member : piece ∈ whole.splitOn sep) : ∀ x ∈ piece, x ∈ whole ∧ x ≠ sep := by
  rw [List.splitOn_eq_splitOnP] at member
  intro x here
  simpa using of_mem_splitOnP member x here

/-- A whole has what its pieces and its separators have. -/
theorem mem_intercalate {sep : List α} {pieces : List (List α)} {x : α}
    (member : x ∈ sep.intercalate pieces) : x ∈ sep ∨ ∃ piece ∈ pieces, x ∈ piece := by
  induction pieces with
  | nil => cases member
  | cons piece pieces ih =>
    cases pieces with
    | nil => exact .inr ⟨piece, List.mem_cons_self, by simpa using member⟩
    | cons next pieces =>
      rw [List.intercalate_cons_cons, List.append_assoc, List.mem_append, List.mem_append] at member
      rcases member with own | between | behind
      · exact .inr ⟨piece, List.mem_cons_self, own⟩
      · exact .inl between
      · exact (ih behind).imp_right fun ⟨other, there, own⟩ =>
          ⟨other, List.mem_cons_of_mem piece there, own⟩

theorem span_append {p : α → Bool} {front : List α} (behind : List α)
    (inside : ∀ c ∈ front, p c) (ends : ∀ c ∈ behind.head?, ¬p c) :
    (front ++ behind).takeWhile p = front ∧ (front ++ behind).dropWhile p = behind := by
  rw [List.takeWhile_append_of_pos inside, List.dropWhile_append_of_pos inside]
  cases behind with
  | nil => simp
  | cons c behind =>
    have outside := ends c rfl
    rw [List.takeWhile_cons_of_neg outside, List.dropWhile_cons_of_neg outside, List.append_nil]
    exact ⟨rfl, rfl⟩

theorem mapM_eq_some_iff {β : Type} {f : α → Option β} {pieces : List α} {values : List β} :
    pieces.mapM f = some values ↔ pieces.map f = values.map some := by
  induction pieces generalizing values with
  | nil => cases values <;> simp
  | cons piece pieces ih =>
    rw [List.mapM_cons, List.map_cons]
    constructor
    · intro read
      obtain ⟨value, one, read⟩ := Option.bind_eq_some_iff.1 read
      obtain ⟨others, more, read⟩ := Option.bind_eq_some_iff.1 read
      cases read
      rw [one, ih.1 more, List.map_cons]
    · intro same
      cases values with
      | nil => cases same
      | cons value others =>
        obtain ⟨one, more⟩ := List.cons.inj same
        rw [one, ih.2 more]
        rfl

end VectorFetch

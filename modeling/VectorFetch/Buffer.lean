import VectorFetch.Text.Utf8

/-!
# Buffered writing

Small pieces are gathered, so that the file behind a buffer is asked to take few large
ones.

* `Buffer`, `Buffer.push`, `Buffer.flush`: the pieces that wait.
* `Buffer.batches`: what the file is asked to take. By `flatten_batches` the pieces are
  regrouped and nothing else changes.
-/

namespace VectorFetch

/-- Pieces that wait to be written, the last one first, and their size in bytes. -/
structure Buffer where
  waiting : List Bytes
  size : Nat
  size_eq : size = waiting.flatten.length

namespace Buffer

def empty : Buffer := ⟨[], 0, rfl⟩

def push (b : Buffer) (piece : Bytes) : Buffer :=
  ⟨piece :: b.waiting, b.size + piece.length, by
    rw [List.flatten_cons, List.length_append, b.size_eq, Nat.add_comm]⟩

/-- The bytes that wait, in order. -/
def bytes (b : Buffer) : Bytes := b.waiting.reverse.flatten

@[simp] theorem bytes_empty : empty.bytes = [] := rfl

@[simp] theorem bytes_push (b : Buffer) (piece : Bytes) :
    (b.push piece).bytes = b.bytes ++ piece := by
  simp [bytes, push]

@[simp] theorem length_bytes (b : Buffer) : b.bytes.length = b.size := by
  rw [b.size_eq, bytes, List.length_flatten, List.length_flatten, List.map_reverse,
    List.sum_reverse]

/-- What waits, as at most one batch. -/
def flush (b : Buffer) : List Bytes := if b.size = 0 then [] else [b.bytes]

@[simp] theorem flatten_flush (b : Buffer) : b.flush.flatten = b.bytes := by
  unfold flush
  split
  · next h => exact (List.length_eq_zero_iff.1 (by rw [length_bytes, h])).symm
  · simp

/-- The batches for a list of pieces behind those that wait. A piece that does not fit
first empties the buffer, and one of the size of the buffer does not go through it. -/
def batchesFrom (capacity : Nat) (b : Buffer) : List Bytes → List Bytes
  | [] => b.flush
  | piece :: rest =>
    if b.size + piece.length ≤ capacity then
      if capacity ≤ piece.length then piece :: batchesFrom capacity b rest
      else batchesFrom capacity (b.push piece) rest
    else if capacity ≤ piece.length then b.flush ++ piece :: batchesFrom capacity empty rest
    else b.flush ++ batchesFrom capacity (empty.push piece) rest

/-- No byte is lost, added or moved. -/
theorem flatten_batchesFrom (capacity : Nat) (b : Buffer) (pieces : List Bytes) :
    (batchesFrom capacity b pieces).flatten = b.bytes ++ pieces.flatten := by
  fun_induction batchesFrom capacity b pieces with
  | case1 => simp
  | case2 b piece rest fits large ih =>
    have nothing : b.bytes = [] := by
      rw [← List.length_eq_zero_iff, length_bytes]
      omega
    simp [ih, nothing]
  | case3 b piece rest fits small ih => simp [ih]
  | case4 b piece rest full large ih => simp [ih]
  | case5 b piece rest full small ih => simp [ih]

/-- The size of a buffer. -/
def standardCapacity : Nat := 8192

/-- The batches for a list of pieces. -/
def batches (pieces : List Bytes) : List Bytes := batchesFrom standardCapacity empty pieces

theorem flatten_batches (pieces : List Bytes) : (batches pieces).flatten = pieces.flatten := by
  rw [batches, flatten_batchesFrom, bytes_empty, List.nil_append]

end Buffer

end VectorFetch

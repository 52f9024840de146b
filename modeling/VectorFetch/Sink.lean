import VectorFetch.Files.Error
import VectorFetch.Text.Utf8

/-!
# Sinks

A sink takes bytes in calls. It may take only so many in one call and only so many in
all, and then it refuses. A call that is interrupted has taken nothing and is made again,
so one call here stands for all of its attempts, and no sink refuses with an interruption.

* `Sink.take`: one call, which may take a part of the bytes.
* `Sink.takeAll`: as many calls as it needs for all of the bytes.
* `Sink.takePieces`: piece after piece, up to the first one that is refused.

By `takeAll_eq` a sink takes as many bytes as it has room for, whatever it takes in one
call, and by `takePieces_eq` pieces are taken like the bytes that they make up.
-/

namespace VectorFetch

/-- How a sink without room answers a call. -/
inductive Refusal where
  /-- It fails. -/
  | failure (error : LastingError)
  /-- It takes nothing and does not say why. -/
  | silence
  deriving DecidableEq, Repr

/-- A place that bytes are written to. -/
structure Sink where
  /-- How many more bytes it takes; without a number there is no end. -/
  room : Option Nat
  /-- How many bytes it takes in one call at most. -/
  perCall : Option Nat
  /-- How it answers when there is no room. -/
  refusal : Refusal
  /-- The bytes it has taken. -/
  taken : Bytes
  deriving DecidableEq, Repr

namespace Sink

def unlimited : Sink := ⟨none, none, .silence, []⟩

/-- A number that may not exceed a limit. -/
def limit (bound : Option Nat) (n : Nat) : Nat :=
  match bound with
  | some b => min b n
  | none => n

/-- How many of `n` bytes the next call takes. -/
def portion (s : Sink) (n : Nat) : Nat := limit s.room (limit s.perCall n)

/-- The sink after it has taken these bytes. -/
def accept (s : Sink) (bytes : Bytes) : Sink :=
  { s with room := s.room.map (· - bytes.length), taken := s.taken ++ bytes }

/-! ## Calls -/

/-- One call. The answer counts the bytes that were taken. -/
def take (s : Sink) (bytes : Bytes) : Except IoError Nat × Sink :=
  match s.room, s.refusal with
  | some 0, .failure e => (.error e.error, s)
  | _, _ => (.ok (s.portion bytes.length), s.accept (bytes.take (s.portion bytes.length)))

/-- Calls until all bytes are taken. A call that takes nothing ends it. -/
def takeAll (s : Sink) : Bytes → Except IoError Unit × Sink
  | [] => (.ok (), s)
  | b :: rest =>
    match s.take (b :: rest) with
    | (.error e, s) => (.error e, s)
    | (.ok 0, s) => (.error .nothingTaken, s)
    | (.ok (n + 1), s) => s.takeAll (rest.drop n)
termination_by bytes => bytes.length
decreasing_by simp only [List.length_drop, List.length_cons]; omega

/-- Piece after piece. An empty piece needs no call. -/
def takePieces (s : Sink) : List Bytes → Except IoError Unit × Sink
  | [] => (.ok (), s)
  | piece :: rest =>
    match s.takeAll piece with
    | (.error e, s) => (.error e, s)
    | (.ok (), s) => s.takePieces rest

/-! ## How much is taken -/

/-- The error of a sink that has no room for all of the bytes. -/
def shortage (s : Sink) : IoError :=
  match s.refusal with
  | .failure e => e.error
  | .silence => .nothingTaken

theorem limit_le (bound : Option Nat) (n : Nat) : limit bound n ≤ n := by
  cases bound with
  | none => exact Nat.le_refl n
  | some b => exact Nat.min_le_right b n

@[simp] theorem accept_nil (s : Sink) : s.accept [] = s := by
  cases s
  simp [accept]

theorem accept_accept (s : Sink) (a b : Bytes) : (s.accept a).accept b = s.accept (a ++ b) := by
  cases s with
  | mk room perCall refusal taken =>
    cases room <;> simp [accept, Nat.sub_add_eq]

@[simp] theorem perCall_accept (s : Sink) (a : Bytes) : (s.accept a).perCall = s.perCall := rfl

@[simp] theorem shortage_accept (s : Sink) (a : Bytes) : (s.accept a).shortage = s.shortage := rfl

/-- What is left of the room after a part of it has been used. -/
theorem limit_room_accept {s : Sink} {a : Bytes} {n : Nat} (h : a.length ≤ limit s.room n) :
    limit (s.accept a).room (n - a.length) = limit s.room n - a.length := by
  cases hr : s.room with
  | none => simp only [accept, limit, hr, Option.map_none]
  | some r =>
    simp only [accept, limit, hr, Option.map_some] at h ⊢
    omega

theorem take_of_room_eq_zero {s : Sink} (h : s.room = some 0) (bytes : Bytes) :
    s.take bytes = (match s.refusal with
      | .failure e => .error e.error
      | .silence => .ok 0, s) := by
  unfold take
  cases hr : s.refusal <;> simp [h, portion, limit]

theorem take_of_room_ne_zero {s : Sink} (h : s.room ≠ some 0) (bytes : Bytes) :
    s.take bytes =
      (.ok (s.portion bytes.length), s.accept (bytes.take (s.portion bytes.length))) := by
  unfold take
  split
  · contradiction
  · rfl

theorem portion_pos {s : Sink} (hr : s.room ≠ some 0) (hc : s.perCall ≠ some 0) {n : Nat}
    (hn : 0 < n) : 0 < s.portion n := by
  cases h : s.room <;> cases h' : s.perCall <;>
    simp only [portion, limit, h, h', ne_eq, Option.some.injEq] at hr hc ⊢ <;> omega

theorem portion_le (s : Sink) (n : Nat) : s.portion n ≤ limit s.room n := by
  unfold portion limit
  split <;> split <;> omega

/-- One call takes a front of the bytes, and the sink behind it takes of the rest. -/
theorem takeAll_of_portion {s : Sink} (free : s.room ≠ some 0) (calls : s.perCall ≠ some 0)
    {bytes : Bytes} (filled : bytes ≠ []) : ∃ front rest, bytes = front ++ rest ∧ front ≠ [] ∧
      front.length ≤ limit s.room bytes.length ∧
      s.takeAll bytes = (s.accept front).takeAll rest := by
  obtain ⟨b, more, rfl⟩ := List.exists_cons_of_ne_nil filled
  obtain ⟨k, portion⟩ : ∃ k, s.portion (b :: more).length = k + 1 :=
    Nat.exists_eq_succ_of_ne_zero (Nat.ne_of_gt (portion_pos free calls (Nat.succ_pos _)))
  have room := portion_le s (b :: more).length
  rw [portion] at room
  refine ⟨b :: more.take k, more.drop k, ?_, List.cons_ne_nil _ _, ?_, ?_⟩
  · rw [List.cons_append, List.take_append_drop]
  · exact Nat.le_trans (Nat.succ_le_succ (List.length_take_le k more)) room
  · rw [takeAll, take_of_room_ne_zero free, portion]
    rfl

theorem takeAll_eq {s : Sink} (calls : s.perCall ≠ some 0) (bytes : Bytes) :
    s.takeAll bytes =
      (if limit s.room bytes.length = bytes.length then .ok () else .error s.shortage,
        s.accept (bytes.take (limit s.room bytes.length))) := by
  -- By induction on the length: behind one call there is less to take, and as much less room.
  induction size : bytes.length using Nat.strongRecOn generalizing s bytes with
  | ind n ih =>
    subst size
    by_cases empty : bytes = []
    · subst empty
      cases room : s.room <;> simp [takeAll, limit]
    by_cases full : s.room = some 0
    · obtain ⟨b, rest, rfl⟩ := List.exists_cons_of_ne_nil empty
      cases refusal : s.refusal <;>
        simp [takeAll, take_of_room_eq_zero full, refusal, full, limit, shortage]
    · obtain ⟨front, rest, rfl, filled, fits, once⟩ := takeAll_of_portion full calls empty
      have shorter : rest.length < (front ++ rest).length := by
        rw [List.length_append]
        exact Nat.lt_add_of_pos_left (List.length_pos_iff.2 filled)
      have room := limit_room_accept fits
      rw [List.length_append, Nat.add_sub_cancel_left] at room
      rw [List.length_append] at fits
      have all : limit s.room (front.length + rest.length) - front.length = rest.length ↔
          limit s.room (front.length + rest.length) = front.length + rest.length := by omega
      rw [once, ih rest.length shorter (s := s.accept front) calls rest rfl, room, accept_accept,
        shortage_accept, List.length_append, List.take_append, List.take_of_length_le fits]
      simp only [all]

theorem perCall_takeAll {s : Sink} (h : s.perCall ≠ some 0) (bytes : Bytes) :
    (s.takeAll bytes).2.perCall = s.perCall := by
  rw [takeAll_eq h, perCall_accept]

/-- Bytes behind others are taken only if those before them were. -/
theorem takeAll_append {s : Sink} (h : s.perCall ≠ some 0) (a b : Bytes) :
    s.takeAll (a ++ b) =
      match s.takeAll a with
      | (.error e, s) => (.error e, s)
      | (.ok (), s) => s.takeAll b := by
  rw [takeAll_eq h, takeAll_eq h, List.length_append]
  by_cases fits : limit s.room a.length = a.length
  · have wider : a.length ≤ limit s.room (a.length + b.length) := by
      cases hr : s.room <;> simp only [limit, hr] at * <;> omega
    have room := limit_room_accept wider
    rw [Nat.add_sub_cancel_left] at room
    have all : limit s.room (a.length + b.length) - a.length = b.length ↔
        limit s.room (a.length + b.length) = a.length + b.length := by omega
    simp only [if_pos fits]
    rw [fits, List.take_length, takeAll_eq (s := s.accept a) h, room, accept_accept,
      shortage_accept, List.take_append, List.take_of_length_le wider]
    simp only [all]
  · -- A sink that has no room for the front takes no more of the whole.
    have narrow : limit s.room (a.length + b.length) = limit s.room a.length := by
      cases hr : s.room with
      | none => simp [limit, hr] at fits
      | some r =>
        simp only [limit, hr] at fits ⊢
        omega
    have le := limit_le s.room a.length
    simp only [if_neg fits]
    rw [narrow, if_neg (by omega), List.take_append_of_le_length le]

theorem takePieces_eq {s : Sink} (h : s.perCall ≠ some 0) (pieces : List Bytes) :
    s.takePieces pieces = s.takeAll pieces.flatten := by
  induction pieces generalizing s with
  | nil => simp [takePieces, takeAll]
  | cons piece rest ih =>
    have same := perCall_takeAll h piece
    rw [List.flatten_cons, takeAll_append h, takePieces]
    rcases hp : s.takeAll piece with ⟨_ | _, t⟩
    · rfl
    · rw [hp] at same
      exact ih (same.symm ▸ h)

/-! ## Sinks with room, and without -/

theorem takeAll_of_room {s : Sink} (room : s.room = none) (calls : s.perCall ≠ some 0)
    (bytes : Bytes) : s.takeAll bytes = (.ok (), s.accept bytes) := by
  rw [takeAll_eq calls]
  simp [limit, room]

theorem accept_of_takeAll {s after : Sink} (calls : s.perCall ≠ some 0) {bytes : Bytes}
    (accepted : s.takeAll bytes = (.ok (), after)) : after = s.accept bytes := by
  rw [takeAll_eq calls] at accepted
  split at accepted
  next all =>
    cases accepted
    rw [all, List.take_length]
  next => cases accepted

theorem takeAll_fst_eq_ok {s : Sink} {room : Nat} (limited : s.room = some room)
    (calls : s.perCall ≠ some 0) {bytes : Bytes} :
    (s.takeAll bytes).1 = .ok () ↔ bytes.length ≤ room := by
  rw [takeAll_eq calls]
  simp only [limit, limited]
  by_cases fits : bytes.length ≤ room
  · simp [fits]
  · have short : ¬min room bytes.length = bytes.length := by omega
    simp [short, fits]

/-- A sink that refuses takes what it has room for. -/
theorem takeAll_eq_error {s after : Sink} {e : IoError} {room : Nat}
    (limited : s.room = some room) (calls : s.perCall ≠ some 0) {bytes : Bytes}
    (refused : s.takeAll bytes = (.error e, after)) :
    room < bytes.length ∧ e = s.shortage ∧ after.taken = s.taken ++ bytes.take room := by
  have short : ¬bytes.length ≤ room := by
    rw [← takeAll_fst_eq_ok limited calls, refused]
    nofun
  rw [takeAll_eq calls] at refused
  simp only [limit, limited] at refused
  rw [Nat.min_eq_left (by omega), if_neg (by omega)] at refused
  cases refused
  exact ⟨by omega, rfl, rfl⟩

/-- A sink that has refused bytes takes nothing any more. -/
theorem takeAll_of_refused {s after : Sink} {e : IoError} (calls : s.perCall ≠ some 0)
    {bytes : Bytes} (refused : s.takeAll bytes = (.error e, after)) (more : Bytes) :
    (after.takeAll more).2 = after := by
  rw [takeAll_eq calls] at refused
  split at refused
  next => cases refused
  next short =>
    cases refused
    cases room : s.room with
    | none => simp [limit, room] at short
    | some r =>
      simp only [limit, room] at short ⊢
      have full : (s.accept (bytes.take (min r bytes.length))).room = some 0 := by
        simp only [accept, room, Option.map_some, List.length_take]
        congr 1
        omega
      rw [takeAll_eq (s := s.accept _) calls, full, limit, Nat.zero_min, List.take_zero, accept_nil]

end Sink

end VectorFetch

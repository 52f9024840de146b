import VectorFetch.Buffer
import VectorFetch.Sink

/-!
# Sinks behind a buffer

Small pieces wait in a buffer, and the sink is asked to take them when the buffer is full. The
sinks that have a buffer before them are files, and a file says why it refuses.

* `BufferedSink.flush`: empties the buffer. What the sink does not take stays.
* `BufferedSink.put`, `BufferedSink.putAll`: one piece, and piece after piece.
* `BufferedSink.close`: the sink, after it was asked once more for what still waits.

By `Carries.putAll` the sink takes what it would take without a buffer, and the answer is the same,
wherever it comes from: a piece that does not fit or the last flush.
-/

namespace VectorFetch

/-- A sink and the bytes that wait for it. -/
structure BufferedSink where
  sink : Sink
  buffer : Buffer

namespace BufferedSink

/-- An empty buffer before a sink. -/
def fresh (sink : Sink) : BufferedSink := ⟨sink, .empty⟩

/-- Empties the buffer. The bytes that the sink does not take stay in it. -/
def flush (b : BufferedSink) : Except IoError Unit × BufferedSink :=
  let (result, sink) := b.sink.takeAll b.buffer.bytes
  let left := b.buffer.bytes.drop (sink.taken.length - b.sink.taken.length)
  (result, ⟨sink, Buffer.empty.push left⟩)

/-- A piece that there is room for, or that has to go past the buffer because of its size. -/
def pass (capacity : Nat) (piece : Bytes) (b : BufferedSink) :
    Except IoError Unit × BufferedSink :=
  if capacity ≤ piece.length then
    let (result, sink) := b.sink.takeAll piece
    (result, { b with sink })
  else (.ok (), { b with buffer := b.buffer.push piece })

/-- One piece. If there is no room for it the buffer is emptied first. -/
def put (capacity : Nat) (piece : Bytes) (b : BufferedSink) : Except IoError Unit × BufferedSink :=
  if b.buffer.size + piece.length ≤ capacity then b.pass capacity piece
  else
    match b.flush with
    | (.error e, b) => (.error e, b)
    | (.ok (), b) => b.pass capacity piece

/-- Piece after piece, up to the first one that is refused. -/
def putAll (capacity : Nat) (b : BufferedSink) : List Bytes → Except IoError Unit × BufferedSink
  | [] => (.ok (), b)
  | piece :: rest =>
    match b.put capacity piece with
    | (.error e, b) => (.error e, b)
    | (.ok (), b) => b.putAll capacity rest

/-- The sink without the buffer. It is asked once more for what waits, and its answer does not
count. -/
def close (b : BufferedSink) : Sink := b.flush.2.sink

/-! ## What the sink takes -/

/-- Bytes that were put and have not been refused: a part has been sent, and the rest waits. -/
structure Carries (sink : Sink) (bytes : Bytes) (b : BufferedSink) : Prop where
  sent : ∃ sent, sink.takeAll sent = (.ok (), b.sink) ∧ sent ++ b.buffer.bytes = bytes

/-- What has become of bytes that were put. -/
inductive Answers (sink : Sink) (bytes : Bytes) : Except IoError Unit × BufferedSink → Prop where
  | carried {b : BufferedSink} (carries : Carries sink bytes b) : Answers sink bytes (.ok (), b)
  /-- The sink has refused them, as it would without a buffer. -/
  | refused {b : BufferedSink} {e : IoError} (refuses : sink.takeAll bytes = (.error e, b.sink)) :
    Answers sink bytes (.error e, b)

variable {sink : Sink} {bytes : Bytes} {b : BufferedSink}

theorem carries_fresh (sink : Sink) : Carries sink [] (fresh sink) :=
  ⟨[], Sink.takeAll.eq_1 sink, rfl⟩

/-- What the sink has not been asked to take yet is what waits. -/
theorem Carries.takeAll_append (carries : Carries sink bytes b) (calls : sink.perCall ≠ some 0)
    (more : Bytes) : sink.takeAll (bytes ++ more) = b.sink.takeAll (b.buffer.bytes ++ more) := by
  obtain ⟨sent, taken, rfl⟩ := carries.sent
  rw [List.append_assoc, Sink.takeAll_append calls, taken]

theorem Carries.takeAll (carries : Carries sink bytes b) (calls : sink.perCall ≠ some 0) :
    sink.takeAll bytes = b.sink.takeAll b.buffer.bytes := by
  have same := carries.takeAll_append calls []
  rwa [List.append_nil, List.append_nil] at same

/-- Bytes behind those that were refused are refused too. -/
theorem refused_append {e : IoError} {after : Sink} (calls : sink.perCall ≠ some 0)
    (refuses : sink.takeAll bytes = (.error e, after)) (more : Bytes) :
    sink.takeAll (bytes ++ more) = (.error e, after) := by
  rw [Sink.takeAll_append calls, refuses]

/-- All that waits has been sent, or the sink has refused it. -/
theorem Carries.flush (carries : Carries sink bytes b) (calls : sink.perCall ≠ some 0) :
    Answers sink bytes b.flush ∧ (b.flush.1 = .ok () → b.flush.2.buffer.bytes = []) := by
  have same := carries.takeAll calls
  have ownCalls : b.sink.perCall ≠ some 0 := by
    obtain ⟨sent, taken, -⟩ := carries.sent
    rwa [Sink.accept_of_takeAll calls taken]
  unfold BufferedSink.flush
  rcases asked : b.sink.takeAll b.buffer.bytes with ⟨e | _, after⟩
  · exact ⟨.refused (same.trans asked), nofun⟩
  · -- The sink holds so many bytes more as have waited.
    obtain rfl := Sink.accept_of_takeAll ownCalls asked
    have nothing : (Buffer.empty.push (b.buffer.bytes.drop
        ((b.sink.accept b.buffer.bytes).taken.length - b.sink.taken.length))).bytes = [] := by
      simp [Sink.accept]
    exact ⟨.carried ⟨bytes, same.trans asked, by simp only [nothing, List.append_nil]⟩,
      fun _ => nothing⟩

theorem Carries.pass (carries : Carries sink bytes b) (calls : sink.perCall ≠ some 0)
    {capacity : Nat} {piece : Bytes} (empty : capacity ≤ piece.length → b.buffer.bytes = []) :
    Answers sink (bytes ++ piece) (b.pass capacity piece) := by
  unfold BufferedSink.pass
  split
  next large =>
    have same := carries.takeAll_append calls piece
    rw [empty large, List.nil_append] at same
    rcases asked : b.sink.takeAll piece with ⟨e | _, after⟩
    · exact .refused (same.trans asked)
    · exact .carried ⟨bytes ++ piece, same.trans asked, by simp only [empty large, List.append_nil]⟩
  next =>
    obtain ⟨sent, taken, rfl⟩ := carries.sent
    exact .carried ⟨sent, taken, by rw [Buffer.bytes_push, List.append_assoc]⟩

theorem Carries.put (carries : Carries sink bytes b) (calls : sink.perCall ≠ some 0)
    (capacity : Nat) (piece : Bytes) : Answers sink (bytes ++ piece) (b.put capacity piece) := by
  unfold BufferedSink.put
  split
  next fits =>
    refine carries.pass calls fun large => List.length_eq_zero_iff.1 ?_
    rw [Buffer.length_bytes]
    omega
  next =>
    obtain ⟨answers, emptied⟩ := carries.flush calls
    rcases flushed : b.flush with ⟨e | _, after⟩
    · rw [flushed] at answers
      cases answers with
      | refused refuses => exact .refused (refused_append calls refuses piece)
    · rw [flushed] at answers emptied
      cases answers with
      | carried carries => exact carries.pass calls fun _ => emptied rfl

theorem Carries.putAll (carries : Carries sink bytes b) (calls : sink.perCall ≠ some 0)
    (capacity : Nat) (pieces : List Bytes) :
    Answers sink (bytes ++ pieces.flatten) (b.putAll capacity pieces) := by
  -- By induction on the pieces: a piece that is carried joins those before it.
  induction pieces generalizing b bytes with
  | nil =>
    rw [List.flatten_nil, List.append_nil]
    exact .carried carries
  | cons piece rest ih =>
    have answers := carries.put calls capacity piece
    rw [List.flatten_cons, ← List.append_assoc, BufferedSink.putAll]
    rcases put : b.put capacity piece with ⟨e | _, after⟩
    · rw [put] at answers
      cases answers with
      | refused refuses => exact .refused (refused_append calls refuses _)
    · rw [put] at answers
      cases answers with
      | carried carries => exact ih carries

/-- A sink that has refused bytes takes nothing any more, so that the last attempt is in vain. -/
theorem close_of_refused {e : IoError} (calls : sink.perCall ≠ some 0)
    (refuses : sink.takeAll bytes = (.error e, b.sink)) : b.close = b.sink :=
  Sink.takeAll_of_refused calls refuses _

end BufferedSink

end VectorFetch

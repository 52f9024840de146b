import VectorFetch.Http.Message
import Mathlib.Algebra.Group.Nat.Defs
import Mathlib.Data.List.Basic

/-!
# Chunked bodies

* `Carries`: the ways in which chunks can be sent. `exists_carries`: there is one for every split.
* `Reads`: how a reader comes through bytes without being done before their end.
* `Carries.reads`: a reader comes through a chunked body to its end, and has read the chunks.
* `decode_of_carries`, `decode_of_cut`: all of a chunked body, and a part of it.
-/

namespace VectorFetch.Http.Chunk

/-! ## Codings -/

/-- The end of a line. -/
def lineEnd : Bytes := [13, 10]

/-- The number that hexadecimal digits of either case stand for behind other ones. -/
def sizeFrom? (value : Nat) (digits : Bytes) : Option Nat :=
  digits.foldlM (fun value b => (Radix.byteDigit? 16 b).map (16 * value + ·)) value

/-- A line with the size of a chunk. Behind the size anything may follow up to the end of the
line. -/
structure IsSizeLine (size : Nat) (line : Bytes) : Prop where
  small : size < 2 ^ 63
  spelled : ∃ digits extension, line = digits ++ extension ++ lineEnd ∧ digits ≠ [] ∧
    digits.length ≤ 16 ∧ sizeFrom? 0 digits = some size ∧
    (∀ b ∈ extension.head?, Radix.byteDigit? 16 b = none) ∧ 10 ∉ extension

/-- A line of the trailer without its end. -/
structure IsField (field : Bytes) : Prop where
  filled : field ≠ []
  oneLine : 13 ∉ field ∧ 10 ∉ field

/-- The ways to send chunks: each behind its size, and an empty one at the end with a trailer of any
number of lines. -/
inductive Carries : List Bytes → Bytes → Prop where
  | last {line : Bytes} {fields : List Bytes} (size : IsSizeLine 0 line)
      (trailer : ∀ field ∈ fields, IsField field) :
      Carries [] (line ++ fields.flatMap (· ++ lineEnd) ++ lineEnd)
  | chunk {line bytes rest : Bytes} {chunks : List Bytes} (size : IsSizeLine bytes.length line)
      (filled : bytes ≠ []) (behind : Carries chunks rest) :
      Carries (bytes :: chunks) (line ++ bytes ++ lineEnd ++ rest)

theorem exists_digit {d : Nat} (small : d < 16) : ∃ b, Radix.byteDigit? 16 b = some d := by
  have all : ∀ d < 16,
      Radix.byteDigit? 16 (UInt8.ofNat (if d < 10 then 48 + d else 87 + d)) = some d := by
    decide
  exact ⟨_, all d small⟩

theorem exists_digits (k : Nat) {n : Nat} (small : n < 16 ^ k) :
    ∃ digits, digits.length = k ∧ sizeFrom? 0 digits = some n := by
  induction k generalizing n with
  | zero =>
    obtain rfl : n = 0 := by simpa using small
    exact ⟨[], rfl, rfl⟩
  | succ k ih =>
    have front : n / 16 < 16 ^ k := by omega
    obtain ⟨digits, length, value⟩ := ih front
    obtain ⟨b, digit⟩ := exists_digit (Nat.mod_lt n (by decide))
    refine ⟨digits ++ [b], by simp [length], ?_⟩
    rw [sizeFrom?] at value ⊢
    simp [List.foldlM_append, value, digit, Nat.div_add_mod]

theorem exists_sizeLine {size : Nat} (small : size < 2 ^ 63) : ∃ line, IsSizeLine size line := by
  have fits : size < 16 ^ 16 := by omega
  obtain ⟨digits, length, value⟩ := exists_digits 16 fits
  refine ⟨digits ++ lineEnd, small, digits, [], by simp, ?_, by omega, value, by simp, by simp⟩
  rintro rfl
  cases length

theorem exists_carries {chunks : List Bytes}
    (sized : ∀ chunk ∈ chunks, chunk ≠ [] ∧ chunk.length < 2 ^ 63) :
    ∃ sent, Carries chunks sent := by
  induction chunks with
  | nil =>
    obtain ⟨line, size⟩ : ∃ line, IsSizeLine 0 line := exists_sizeLine (by decide)
    exact ⟨_, .last size (List.forall_mem_nil IsField)⟩
  | cons chunk chunks ih =>
    obtain ⟨⟨filled, small⟩, others⟩ := List.forall_mem_cons.1 sized
    obtain ⟨rest, behind⟩ := ih others
    obtain ⟨line, size⟩ := exists_sizeLine small
    exact ⟨_, .chunk size filled behind⟩

/-! ## Readers -/

/-- A reader comes through bytes, and is not done before the last of them. -/
inductive Reads : State → Bytes → State → Prop where
  | nil (s : State) : Reads s [] s
  | cons {s next last : State} {b : UInt8} {rest : Bytes} (going : s.phase ≠ .done)
      (step : s.step b = some next) (behind : Reads next rest last) : Reads s (b :: rest) last

namespace Reads

variable {s mid last : State} {front behind sent : Bytes}

theorem append (first : Reads s front mid) (second : Reads mid behind last) :
    Reads s (front ++ behind) last := by
  induction first with
  | nil => exact second
  | cons going step _ ih => exact .cons going step (ih second)

theorem run (reads : Reads s sent last) : s.run sent = some last := by
  induction reads with
  | nil => rfl
  | cons _ step _ ih => simp only [State.run, step, ih]

/-- A reader that has not got all is not done. -/
theorem cut (reads : Reads s (front ++ behind) last) (more : behind ≠ []) :
    ∃ mid, s.run front = some mid ∧ mid.phase ≠ .done := by
  induction front generalizing s with
  | nil =>
    refine ⟨s, rfl, ?_⟩
    cases reads with
    | nil => exact absurd rfl more
    | cons going => exact going
  | cons b front ih =>
    cases reads with
    | cons going step rest =>
      obtain ⟨mid, run, going⟩ := ih rest
      exact ⟨mid, by simp only [State.run, step, run], going⟩

end Reads

/-! ## Through the parts of a chunked body -/

/-- A byte belongs to no chunk, and to nothing behind the body. -/
def Phase.isFraming : Phase → Bool
  | .data _ | .done => false
  | _ => true

variable {body : Bytes} {phase next : Phase}

theorem reads_one {b : UInt8} (framing : phase.isFraming) (step : phase.step b = some next) :
    Reads ⟨phase, body⟩ [b] ⟨next, body⟩ := by
  cases phase with
  | data | done => cases framing
  | _ =>
    refine .cons nofun ?_ (.nil _)
    simp only [State.step, step, Option.map_some]

theorem reads_stay {sent : Bytes} (framing : phase.isFraming)
    (stays : ∀ b ∈ sent, phase.step b = some phase) : Reads ⟨phase, body⟩ sent ⟨phase, body⟩ := by
  induction sent with
  | nil => exact .nil _
  | cons b rest ih =>
    obtain ⟨first, others⟩ := List.forall_mem_cons.1 stays
    exact (reads_one framing first).append (ih others)

theorem reads_lineEnd {mid : Phase} (first : phase.step 13 = some mid)
    (second : mid.step 10 = some next) (framing : phase.isFraming) (framing' : mid.isFraming) :
    Reads ⟨phase, body⟩ lineEnd ⟨next, body⟩ :=
  (reads_one framing first).append (reads_one framing' second)

theorem reads_digits {digits : Bytes} {seen value size : Nat} (few : seen + digits.length ≤ 16)
    (spelled : sizeFrom? value digits = some size) :
    Reads ⟨.size seen value, body⟩ digits ⟨.size (seen + digits.length) size, body⟩ := by
  -- The value of the digits that were seen is that of a number whose other digits are to come.
  induction digits generalizing seen value with
  | nil =>
    cases spelled
    exact .nil _
  | cons b digits ih =>
    rw [List.length_cons] at few
    rw [sizeFrom?, List.foldlM_cons] at spelled
    obtain ⟨_, more, spelled⟩ := Option.bind_eq_some_iff.1 spelled
    obtain ⟨d, digit, rfl⟩ := Option.map_eq_some_iff.1 more
    have step : (Phase.size seen value).step b = some (.size (seen + 1) (16 * value + d)) := by
      simp [Phase.step, digit, show seen < 16 by omega]
    have fewer : seen + 1 + digits.length ≤ 16 := by omega
    rw [List.length_cons, Nat.add_comm digits.length, ← Nat.add_assoc]
    exact (reads_one rfl step).append (ih fewer spelled)

/-- Behind the size the line is skipped. -/
theorem reads_sizeEnd {extension : Bytes} {seen size : Nat} (digits : seen ≠ 0)
    (small : size < 2 ^ 63) (ends : ∀ b ∈ extension.head?, Radix.byteDigit? 16 b = none)
    (oneLine : 10 ∉ extension) :
    Reads ⟨.size seen size, body⟩ (extension ++ lineEnd) ⟨afterSize size, body⟩ := by
  -- The carriage return counts as one more byte of the line.
  obtain ⟨b, rest, spelled⟩ := List.exists_cons_of_ne_nil (show extension ++ [13] ≠ [] by simp)
  have first : Radix.byteDigit? 16 b = none := by
    cases extension with
    | nil =>
      cases spelled
      decide
    | cons c extension =>
      cases spelled
      exact ends _ rfl
  have noLineFeed : 10 ∉ b :: rest := by
    rw [← spelled]
    simpa using oneLine
  simp only [List.mem_cons, not_or] at noLineFeed
  have large : ¬Nat.pow 2 63 ≤ size := Nat.not_le.2 small
  have skipped : (Phase.size seen size).step b = some (.sizeLine size) := by
    simp [Phase.step, first, digits, large, Ne.symm noLineFeed.1]
  have stays : ∀ c ∈ rest, (Phase.sizeLine size).step c = some (.sizeLine size) := by
    intro c member
    have other : c ≠ 10 := fun same => noLineFeed.2 (same ▸ member)
    simp only [Phase.step, if_neg other]
  have text : extension ++ lineEnd = [b] ++ rest ++ [10] := by
    rw [List.singleton_append, ← spelled, List.append_assoc]
    rfl
  rw [text]
  exact ((reads_one rfl skipped).append (reads_stay rfl stays)).append (reads_one rfl rfl)

theorem reads_sizeLine {line : Bytes} {size : Nat} (sized : IsSizeLine size line) :
    Reads ⟨.size 0 0, body⟩ line ⟨afterSize size, body⟩ := by
  obtain ⟨small, digits, extension, rfl, filled, few, value, ends, oneLine⟩ := sized
  have first : Reads ⟨.size 0 0, body⟩ digits ⟨.size (0 + digits.length) size, body⟩ :=
    reads_digits (by omega) value
  rw [List.append_assoc]
  exact first.append (reads_sizeEnd (by simpa using filled) small ends oneLine)

theorem reads_data {bytes : Bytes} (filled : bytes ≠ []) :
    Reads ⟨.data bytes.length, body⟩ bytes ⟨.dataLine, bytes.reverse ++ body⟩ := by
  induction bytes generalizing body with
  | nil => exact absurd rfl filled
  | cons b bytes ih =>
    have step : State.step ⟨.data (b :: bytes).length, body⟩ b =
        some ⟨afterData (b :: bytes).length, b :: body⟩ := rfl
    refine .cons nofun step ?_
    -- Only behind the last byte the line has to end.
    cases bytes with
    | nil => exact .nil _
    | cons c rest =>
      rw [List.reverse_cons, List.append_assoc]
      exact ih nofun

theorem reads_field {field : Bytes} (isField : IsField field)
    (before : phase = .trailer false ∨ phase = .lineStart) :
    Reads ⟨phase, body⟩ (field ++ lineEnd) ⟨.lineStart, body⟩ := by
  obtain ⟨b, rest, rfl⟩ := List.exists_cons_of_ne_nil isField.filled
  obtain ⟨noReturn, noLineFeed⟩ := isField.oneLine
  simp only [List.mem_cons, not_or] at noReturn noLineFeed
  have begins : phase.step b = some (.trailer true) := by
    rcases before with rfl | rfl
    · simp [Phase.step, Ne.symm noReturn.1, Ne.symm noLineFeed.1]
    · simp [Phase.step, Ne.symm noReturn.1, Ne.symm noLineFeed.1]
  have stays : ∀ c ∈ rest, (Phase.trailer true).step c = some (.trailer true) := by
    intro c member
    have inside : c ≠ 13 ∧ c ≠ 10 :=
      ⟨fun same => noReturn.2 (same ▸ member), fun same => noLineFeed.2 (same ▸ member)⟩
    simp [Phase.step, inside]
  have framing : phase.isFraming := by rcases before with rfl | rfl <;> rfl
  exact (reads_one framing begins).append
    ((reads_stay rfl stays).append (reads_lineEnd rfl rfl rfl rfl))

theorem reads_trailer {fields : List Bytes} (trailer : ∀ field ∈ fields, IsField field)
    (before : phase = .trailer false ∨ phase = .lineStart) :
    Reads ⟨phase, body⟩ (fields.flatMap (· ++ lineEnd) ++ lineEnd) ⟨.done, body⟩ := by
  induction fields generalizing phase with
  | nil =>
    rcases before with rfl | rfl
    · exact reads_lineEnd rfl rfl rfl rfl
    · exact reads_lineEnd rfl rfl rfl rfl
  | cons field fields ih =>
    obtain ⟨isField, others⟩ := List.forall_mem_cons.1 trailer
    rw [List.flatMap_cons, List.append_assoc]
    exact (reads_field isField before).append (ih others (.inr rfl))

/-- A reader comes through a chunked body to its end, and has read the chunks. -/
theorem Carries.reads {chunks : List Bytes} {sent : Bytes} (carries : Carries chunks sent) :
    Reads ⟨.size 0 0, body⟩ sent ⟨.done, chunks.flatten.reverse ++ body⟩ := by
  induction carries generalizing body with
  | last size trailer =>
    rw [List.append_assoc]
    exact (reads_sizeLine size).append (reads_trailer trailer (.inl rfl))
  | @chunk line bytes rest chunks size filled _ ih =>
    have sized : afterSize bytes.length = .data bytes.length := by simp [afterSize, filled]
    have opened : Reads ⟨.size 0 0, body⟩ line ⟨.data bytes.length, body⟩ :=
      sized ▸ reads_sizeLine size
    have closed : Reads ⟨.dataLine, bytes.reverse ++ body⟩ lineEnd ⟨.size 0 0, bytes.reverse ++ body⟩ :=
      reads_lineEnd rfl rfl rfl rfl
    rw [List.flatten_cons, List.reverse_append, List.append_assoc chunks.flatten.reverse]
    exact ((opened.append (reads_data filled)).append closed).append ih

/-! ## Decoding -/

variable {chunks : List Bytes} {sent cut : Bytes}

/-- All of a chunked body gives the bytes of the chunks, however they were split. -/
theorem decode_of_carries (carries : Carries chunks sent) : decode sent = .ok chunks.flatten := by
  have run : State.start.run sent = some ⟨.done, chunks.flatten.reverse ++ []⟩ := carries.reads.run
  simp [decode, run]

/-- Wherever a chunked body breaks off, it is incomplete. -/
theorem decode_of_cut (carries : Carries chunks sent) (front : cut <+: sent)
    (short : cut.length < sent.length) : decode cut = .error .partialBody := by
  obtain ⟨more, rfl⟩ := front
  have rest : more ≠ [] := by
    rintro rfl
    simp at short
  have reads : Reads State.start (cut ++ more) ⟨.done, chunks.flatten.reverse ++ []⟩ := carries.reads
  obtain ⟨mid, run, going⟩ := reads.cut rest
  have read : State.start.run cut = some mid := run
  simp [decode, read, going]

end VectorFetch.Http.Chunk

import VectorFetch.Proofs.Json.Completeness

/-!
# Documents that were cut short

* `Truncated`: the front of a document that lacks more than white space.
* `BeginsWithNumber`: what a document begins with. Only a number can be cut to another number.
* `State.finish_cases`: how the reader may stand where the bytes end.
* `parse_truncated`: the front of a document is no document, and what is wrong with it is that
  it ends too early.
-/

namespace VectorFetch.Json

open Utf8

/-- A byte of white space between tokens. -/
def isWhite (b : UInt8) : Bool := isBlank (Char.ofUInt8 b)

/-- `Truncated front whole`: the document `whole` was cut behind `front`, and something other
than white space is lost. -/
def Truncated (front whole : Bytes) : Prop := ∃ lost, whole = front ++ lost ∧ ∃ b ∈ lost, ¬isWhite b

/-- The first byte that is no white space is a digit or a minus sign. -/
def BeginsWithNumber (document : Bytes) : Prop :=
  ∃ b, document.find? (fun b => !isWhite b) = some b ∧
    (Char.ofUInt8 b = '-' ∨ (Char.ofUInt8 b).isDigit)

/-! ## Where the bytes end -/

theorem run_append_eq_ok {s s' : State} {front lost : Bytes} (ran : s.run (front ++ lost) = .ok s') :
    ∃ mid, s.run front = .ok mid ∧ mid.run lost = .ok s' := by
  induction front generalizing s with
  | nil => exact ⟨s, rfl, ran⟩
  | cons b front ih =>
    simp only [List.cons_append, State.run] at ran ⊢
    split at ran
    next next stepped => simpa only [stepped] using ih ran
    next => cases ran

/-- A document may end behind its value or within a number, and where the reader is astray it
has gone wrong before. Everywhere else the bytes end too early. -/
theorem State.finish_cases (s : State) : (∃ value, s.mode = .done value) ∨ Astray s.mode ∨
    (∃ scan, s.frames = [] ∧ s.mode = .number scan) ∨
    ∃ e, s.finish = .error e ∧ e.fault.category = .endOfInput := by
  obtain ⟨p, frames, mode⟩ := s
  cases mode with
  | done value => exact .inl ⟨value, rfl⟩
  | markedWord next rest found => exact .inr (.inl .word)
  | markedNumber scan => exact .inr (.inl .number)
  | number scan =>
    right; right
    -- Inside of a container a complete number leaves its end to come.
    cases frames with
    | nil => exact .inl ⟨scan, rfl, rfl⟩
    | cons frame frames =>
      right
      by_cases complete : scan.phase.isComplete
      · cases frame <;> exact ⟨_, by simp only [State.finish, complete]; rfl, rfl⟩
      · exact ⟨_, by simp only [State.finish, complete]; rfl, rfl⟩
  | _ => exact .inr (.inr (.inr ⟨_, rfl, rfl⟩))

/-! ## Behind a value, and astray -/

/-- Behind a complete value nothing but white space is read. -/
theorem isWhite_of_run {p : Position} {frames : List Frame} {value : Value} {lost : Bytes}
    {s' : State} (ran : State.run ⟨p, frames, .done value⟩ lost = .ok s') :
    ∀ b ∈ lost, isWhite b := by
  induction lost generalizing p with
  | nil => nofun
  | cons b lost ih =>
    simp only [State.run] at ran
    split at ran
    next next stepped =>
      obtain ⟨frames', mode', moved, rfl⟩ := (State.step_token_iff rfl).1 stepped
      simp only [stepToken, afterValue] at moved
      split at moved
      next white =>
        cases moved
        exact List.forall_mem_cons.2 ⟨white, ih ran⟩
      next => cases moved
    next => cases ran

theorem Astray.run {s s' : State} {lost : Bytes} (astray : Astray s.mode)
    (ran : s.run lost = .ok s') : Astray s'.mode := by
  induction lost generalizing s with
  | nil =>
    cases ran
    exact astray
  | cons b lost ih =>
    simp only [State.run] at ran
    split at ran
    next next stepped => exact ih (astray.step stepped) ran
    next => cases ran

/-! ## Numbers -/

theorem BeginsWithNumber.append {front : Bytes} (begins : BeginsWithNumber front) (lost : Bytes) :
    BeginsWithNumber (front ++ lost) := by
  obtain ⟨b, first, number⟩ := begins
  exact ⟨b, by rw [List.find?_append, first, Option.some_or], number⟩

theorem find?_blank {w : List Char} (blank : Blank w) :
    (encodeChars w).find? (fun b => !isWhite b) = none := by
  have ascii : ∀ c ∈ w, c.toNat < 128 := fun c member =>
    ascii_of_isBlank (isBlank_iff.2 (blank c member))
  rw [List.find?_eq_none]
  intro b member
  have char : Char.ofUInt8 b ∈ w := map_ofUInt8_encodeChars ascii ▸ List.mem_map_of_mem member
  simpa [isWhite] using isBlank_iff.2 (blank _ char)

theorem minus_or_digit_of_begin? {c : Char} {scan : Number.Scan}
    (begun : Number.Scan.begin? c = some scan) : c = '-' ∨ c.isDigit := by
  obtain ⟨phase, begun, -⟩ := Option.map_eq_some_iff.1 begun
  have zero : c = '0' → c.isDigit := by rintro rfl; decide
  unfold Number.begin? at begun
  grind

theorem not_isBlank_of_number {c : Char} (number : c = '-' ∨ c.isDigit) : ¬isBlank c := by
  intro space
  rcases isBlank_iff.1 space with rfl | rfl | rfl | rfl <;> exact absurd number (by decide)

/-- A number that stands in no container is what its document begins with. -/
theorem Seen.beginsWithNumber {scan : Number.Scan} {bytes : Bytes}
    (seen : Seen [] (.number scan) bytes) : BeginsWithNumber bytes := by
  cases seen with
  | astray astray => cases astray
  | token reading =>
    cases reading with
    | behind done => cases done
    | @number _ t text opened scanned =>
      cases opened with
      | top blank =>
        -- A number is under way from the first character behind the blanks.
        cases text with
        | nil => cases scanned
        | cons c rest =>
          obtain ⟨first, begun, -⟩ := Option.bind_eq_some_iff.1 scanned
          have number := minus_or_digit_of_begin? begun
          have dense := not_isBlank_of_number number
          obtain ⟨b, bytes, rfl⟩ := exists_byte_of_ascii (Number.isNumberChar_of_begin? begun).ascii
          refine ⟨b, ?_, number⟩
          rw [encodeChars_append, encodeChars_cons, bytes, List.find?_append, find?_blank blank]
          simp [isWhite, dense]

/-! ## Documents -/

/-- The front of a document is no document: it ends too early. -/
theorem parse_truncated {front whole : Bytes} {value : Value} (accepted : parse whole = .ok value)
    (notNumber : ¬BeginsWithNumber whole) (cut : Truncated front whole) :
    ∃ e, parse front = .error e ∧ e.fault.category = .endOfInput := by
  obtain ⟨lost, rfl, b, member, dense⟩ := cut
  unfold parse at accepted
  split at accepted
  next s ran =>
    obtain ⟨mid, first, rest⟩ := run_append_eq_ok ran
    have start : Seen State.start.frames State.start.mode [] := .token (.value (.top blank_nil))
    have seen := start.run first
    have ended : parse front = mid.finish := by simp only [parse, first]
    rw [ended]
    obtain ⟨p, frames, mode⟩ := mid
    -- Where the reader could have stopped, what was cut off would not have been read to the end.
    rcases State.finish_cases ⟨p, frames, mode⟩ with
      ⟨_, done⟩ | astray | ⟨scan, top, number⟩ | early
    · obtain rfl : mode = _ := done
      exact absurd (isWhite_of_run rest b member) dense
    · exact absurd accepted (astray.run rest).finish_ne_ok
    · obtain rfl : frames = _ := top
      obtain rfl : mode = _ := number
      exact absurd (seen.beginsWithNumber.append lost) notNumber
    · exact early
  next => cases accepted

end VectorFetch.Json

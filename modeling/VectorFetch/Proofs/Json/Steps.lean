import VectorFetch.Proofs.Json.Escapes

/-!
# Steps of the reader

What a step does, without the positions that only faults need.

* `numberOfText_eq_ok_iff`: a text stands for a number if it is the text of a numeral.
* `State.step_token_iff`, `State.step_string_iff`, `State.step_quote_iff`: the steps outside of
  strings, inside of them, and at their end.
* `endString_eq_ok_iff`: what a complete string leads to.
-/

namespace VectorFetch.Json

open Utf8

/-! ## The text of a number in a string -/

theorem numberRest_eq_ok_iff {scan : Number.Scan} {here : Position} {bytes : Bytes}
    {text : String} :
    numberRest scan here bytes = .ok text ↔
      ∃ scan', Number.feed? scan (bytes.map Char.ofUInt8) = some scan' ∧
        scan'.phase.isComplete ∧ text = scan'.text := by
  induction bytes generalizing scan here with
  | nil => grind [numberRest, Number.feed?]
  | cons b rest ih =>
    simp only [numberRest, List.map_cons, Number.feed?]
    cases scan.phase.move (Char.ofUInt8 b) with
    | extend written next => exact ih
    | leave => simp
    | refuse used => cases used <;> simp

theorem numberOfText_eq_ok_iff_scan {s text : String} :
    numberOfText s = .ok text ↔
      ∃ scan, Number.scan? ((encode s).map Char.ofUInt8) = some scan ∧
        scan.phase.isComplete ∧ text = scan.text := by
  unfold numberOfText
  cases encode s with
  | nil => simp [Number.scan?]
  | cons b rest =>
    simp only [List.map_cons, Number.scan?]
    cases Number.Scan.begin? (Char.ofUInt8 b) with
    | none => simp
    | some scan => simp only [numberRest_eq_ok_iff, Option.bind_some]

/-- A text stands for a number if it is the text of a numeral. -/
theorem numberOfText_eq_ok_iff {s text : String} :
    numberOfText s = .ok text ↔
      ∃ n : Numeral, s.toList = n.text ∧ text = String.ofList n.normal.text := by
  rw [numberOfText_eq_ok_iff_scan]
  constructor
  · rintro ⟨scan, scanned, complete, rfl⟩
    obtain ⟨n, spelled, same⟩ := Number.exists_numeral_of_scan? scanned complete
    refine ⟨n, encodeChars_injective ?_, same⟩
    have ascii : ∀ b ∈ encode s, b.toNat < 128 := by
      intro b member
      rw [← toNat_ofUInt8]
      exact (n.isNumberChar _ (spelled ▸ List.mem_map_of_mem member)).ascii
    rw [← spelled, encodeChars_map_ofUInt8 ascii]
    rfl
  · rintro ⟨n, spelled, rfl⟩
    obtain ⟨scan, scanned, complete, same⟩ := Number.scan?_text n
    refine ⟨scan, ?_, complete, same.symm⟩
    rw [encode, spelled, map_ofUInt8_encodeChars fun c member => (n.isNumberChar c member).ascii]
    exact scanned

/-! ## White space and numbers -/

theorem ascii_of_isBlank {c : Char} (space : isBlank c) : c.toNat < 128 := by
  rcases isBlank_iff.1 space with rfl | rfl | rfl | rfl <;> decide

/-- Whether white space may stand here. -/
def Mode.skipsBlank : Mode → Bool
  | .word _ _ _ | .number _ | .string _ _ _ | .markedWord _ _ _ | .markedNumber _ => false
  | _ => true

theorem stepToken_of_isBlank {mode : Mode} {c : Char} (skips : mode.skipsBlank) (space : isBlank c)
    (frames : List Frame) : stepToken frames mode c = .ok (frames, mode) := by
  cases mode <;> simp_all [stepToken, afterValue, Mode.skipsBlank]

theorem isComplete_of_leave {phase : Number.Phase} {c : Char} (leaves : phase.move c = .leave) :
    phase.isComplete := by
  cases phase <;> first | rfl | (simp only [Number.Phase.move] at leaves; grind)

/-! ## Steps -/

/-- Whether the reader is inside a string. -/
def Mode.isString : Mode → Bool
  | .string _ _ _ => true
  | _ => false

theorem faultBefore_of_stepToken {frames : List Frame} {mode : Mode} {c : Char}
    {r : List Frame × Mode} (stepped : stepToken frames mode c = .ok r) :
    faultBefore mode c = none := by
  cases mode with
  | markedValue =>
    -- What `faultBefore` refuses early, `stepToken` would refuse as well.
    simp only [faultBefore]
    split
    next bracket => subst bracket; cases stepped
    next =>
      split
      next brace => subst brace; cases stepped
      next => rfl
  | markedNumber scan =>
    simp only [faultBefore]
    split
    next leaves => simp [stepToken, leaves] at stepped
    next => rfl
  | _ => rfl

theorem State.step_token_iff {p : Position} {frames : List Frame} {mode : Mode} {b : UInt8}
    {s : State} (token : mode.isString = false) :
    State.step ⟨p, frames, mode⟩ b = .ok s ↔
      ∃ frames' mode', stepToken frames mode (Char.ofUInt8 b) = .ok (frames', mode') ∧
        s = ⟨p.next b, frames', mode'⟩ := by
  constructor
  · intro stepped
    -- A fault that is reported before the byte, and not at it, is none of `stepToken`.
    cases before : faultBefore mode (Char.ofUInt8 b) with
    | some fault => simp [State.step, before] at stepped
    | none =>
      cases moved : stepToken frames mode (Char.ofUInt8 b) with
      | error fault =>
        cases mode <;> first | simp [State.step, before, moved] at stepped; done | cases token
      | ok next =>
        obtain ⟨frames', mode'⟩ := next
        refine ⟨frames', mode', rfl, ?_⟩
        cases mode <;>
          first | simpa [State.step, before, moved, eq_comm] using stepped | cases token
  · rintro ⟨frames', mode', moved, rfl⟩
    have before := faultBefore_of_stepToken moved
    cases mode <;> first | simp only [State.step, before, moved]; done | cases token

theorem State.step_string_iff {p : Position} {frames : List Frame} {purpose : Purpose}
    {read : Bytes} {escape : Escape} {b : UInt8} {s : State}
    (goesOn : escape = .outside → Char.ofUInt8 b ≠ '"') :
    State.step ⟨p, frames, .string purpose read escape⟩ b = .ok s ↔
      ∃ read' escape', escape.step read b = .ok (read', escape') ∧
        s = ⟨p.next b, frames, .string purpose read' escape'⟩ := by
  constructor
  · intro stepped
    cases moved : escape.step read b with
    | error fault => cases escape <;> simp_all [State.step, faultBefore]
    | ok here =>
      obtain ⟨read', escape'⟩ := here
      refine ⟨read', escape', rfl, ?_⟩
      cases escape <;> simp_all [State.step, faultBefore]
  · rintro ⟨read', escape', moved, rfl⟩
    cases escape <;> simp_all [State.step, faultBefore]

theorem State.step_quote_iff {p : Position} {frames : List Frame} {purpose : Purpose}
    {read : Bytes} {b : UInt8} {s : State} (quote : Char.ofUInt8 b = '"') :
    State.step ⟨p, frames, .string purpose read .outside⟩ b = .ok s ↔
      ∃ frames' mode', endString frames purpose read (p.next b) = .ok (frames', mode') ∧
        s = ⟨p.next b, frames', mode'⟩ := by
  simp only [State.step, faultBefore, quote]
  cases endString frames purpose read (p.next b) with
  | ok next =>
    refine ⟨fun stepped => ⟨next.1, next.2, rfl, (Except.ok.inj stepped).symm⟩, ?_⟩
    rintro ⟨_, _, same, rfl⟩
    cases same
    rfl
  | error =>
    constructor
    · intro stepped
      cases stepped
    · rintro ⟨_, _, ended, _⟩
      cases ended

/-! ## The ends of strings and documents -/

/-- What a string with this text leads to. -/
def AfterString (frames : List Frame) (s : String) (next : List Frame × Mode) : Purpose → Prop
  | .value => complete (.string s) frames = next
  | .name members =>
    next = (frames, if members = [] ∧ s = numberName then .afterMarker else .afterName members s)
  | .number => ∃ n : Numeral, s.toList = n.text ∧
    next = (frames, .afterMarkedValue (String.ofList n.normal.text))

theorem endString_eq_ok_iff {frames : List Frame} {purpose : Purpose} {read : Bytes}
    {behind : Position} {next : List Frame × Mode} :
    endString frames purpose read behind = .ok next ↔
      ∃ s, decode read.reverse = .ok s ∧ AfterString frames (String.ofList s) next purpose := by
  unfold endString
  cases decoded : decode read.reverse with
  | error wellFormed => simp
  | ok s =>
    simp only [Except.ok.injEq, exists_eq_left']
    cases purpose with
    | value => simp [AfterString]
    | name members =>
      simp only [AfterString, Bool.and_eq_true, List.isEmpty_iff, beq_iff_eq]
      split <;> simp_all [eq_comm]
    | number =>
      -- Only here the string has to be the text of a number.
      have numeral {t : String} := @numberOfText_eq_ok_iff (String.ofList s) t
      cases numbered : numberOfText (String.ofList s) with
      | error =>
        simp only [AfterString, reduceCtorEq, false_iff]
        rintro ⟨n, spelled, -⟩
        cases numbered.symm.trans (numeral.2 ⟨n, spelled, rfl⟩)
      | ok text =>
        constructor
        · rintro ended
          obtain ⟨n, spelled, rfl⟩ := numeral.1 numbered
          exact ⟨n, spelled, (Except.ok.inj ended).symm⟩
        · rintro ⟨n, spelled, rfl⟩
          cases numbered.symm.trans (numeral.2 ⟨n, spelled, rfl⟩)
          rfl

theorem State.finish_eq_ok {s : State} {value : Value} (ends : s.finish = .ok value) :
    s.mode.finish = .ok value ∨ ∃ scan, s.mode = .number scan ∧ scan.phase.isComplete ∧
      (complete (.number scan.text) s.frames).2.finish = .ok value := by
  obtain ⟨p, frames, mode⟩ := s
  unfold State.finish at ends
  cases mode with
  | number scan =>
    by_cases complete : scan.phase.isComplete
    · simp only [complete, if_true] at ends
      split at ends
      next ends' => cases ends; exact .inr ⟨scan, rfl, complete, ends'⟩
      next => cases ends
    · simp [complete, Mode.finish] at ends
  | _ =>
    simp only at ends
    split at ends
    next ends' => cases ends; exact .inl ends'
    next => cases ends

end VectorFetch.Json

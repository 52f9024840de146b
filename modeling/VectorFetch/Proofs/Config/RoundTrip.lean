import VectorFetch.Config.Toml
import VectorFetch.Proofs.Http.Failures
import VectorFetch.Proofs.Toml.Section

/-!
# Configurations that are written and read

* `HttpSettings.IsWritable`: a timeout that TOML can hold.
* `parse_of_write`: what was written is read as the same configuration.
* `isWritable_of_parse`: what was read can be written.
* `write_and_parse`: both, and what it means for transfers.
-/

namespace VectorFetch

open Toml (Item Line Members Name Scalar Span)

/-! ## Single values -/

/-- There is no timeout, or one that a signed number of 64 bits holds. -/
def HttpSettings.IsWritable (s : HttpSettings) : Prop :=
  ∀ seconds, s.connectTimeoutSecs = some seconds → seconds.toNat ≤ Int64.maxValue.toInt

namespace Config

theorem natural_ofInt {n bound : Nat} (small : n < 2 ^ 63) (within : n < bound)
    (wanted : Toml.Wanted)
    (place span : Span) :
    natural wanted bound place (.scalar span (.integer (Int64.ofInt n))) = .ok n := by
  have value : (Int64.ofInt n).toInt = n := Int64.toInt_ofInt_of_le (by omega) (by omega)
  simp only [natural, value]
  rw [if_pos ⟨by omega, by omega⟩, Int.toNat_natCast]

theorem exists_of_map_eq_ok {ε α β : Type} {f : α → β} {result : Except ε α} {y : β}
    (mapped : result.map f = .ok y) : ∃ x, result = .ok x ∧ f x = y := by
  cases result with
  | error e => cases mapped
  | ok x =>
    cases mapped
    exact ⟨x, rfl, rfl⟩

theorem lt_of_natural {wanted : Toml.Wanted} {bound n : Nat} {place : Span} {item : Item}
    (read : natural wanted bound place item = .ok n) : n < 2 ^ 63 := by
  unfold natural at read
  split at read
  next span value =>
    split at read
    next =>
      have below := Int64.toInt_lt value
      cases read
      omega
    next => cases read
  next => cases read

end Config

/-! ## What is read can be written -/

namespace HttpSettings

theorem isWritable_default : default.IsWritable := nofun

theorem IsWritable.setField {s after : HttpSettings} (writable : s.IsWritable) {field : Field}
    {place : Span} {item : Item} (set : s.setField field place item = .ok after) :
    after.IsWritable := by
  cases field with
  | connectTimeoutSecs =>
    obtain ⟨seconds, word, rfl⟩ := Config.exists_of_map_eq_ok set
    obtain ⟨n, read, rfl⟩ := Config.exists_of_map_eq_ok word
    rintro _ ⟨⟩
    -- A number of a document has 64 bits with its sign, so that it can be written again.
    have small := Config.lt_of_natural read
    have most : Int64.maxValue.toInt = 2 ^ 63 - 1 := rfl
    have size : UInt64.size = 2 ^ 64 := rfl
    rw [UInt64.toNat_ofNat_of_lt' (by omega), most]
    omega
  | followRedirects =>
    obtain ⟨b, -, rfl⟩ := Config.exists_of_map_eq_ok set
    exact writable
  | maxRedirections =>
    obtain ⟨n, -, rfl⟩ := Config.exists_of_map_eq_ok set
    exact writable

theorem IsWritable.setMembers {s after : HttpSettings} (writable : s.IsWritable) {members : Members}
    (set : s.setMembers members = .ok after) : after.IsWritable := by
  induction members generalizing s with
  | nil =>
    cases set
    exact writable
  | cons entry members ih =>
    obtain ⟨name, item⟩ := entry
    rw [HttpSettings.setMembers] at set
    split at set
    next => exact ih writable set
    next =>
      split at set
      next one => exact ih (writable.setField one) set
      next => cases set

theorem IsWritable.setItems {s after : HttpSettings} (writable : s.IsWritable) {place : Span}
    {fields : List Field} {items : List Item} (set : s.setItems place fields items = .ok after) :
    after.IsWritable := by
  induction fields generalizing s items with
  | nil =>
    cases set
    exact writable
  | cons field fields ih =>
    cases items with
    | nil =>
      cases set
      exact writable
    | cons item items =>
      rw [HttpSettings.setItems] at set
      split at set
      next one => exact ih (writable.setField one) set
      next => cases set

theorem isWritable_of_ofItem {place : Span} {item : Item} {s : HttpSettings}
    (read : ofItem place item = .ok s) : s.IsWritable := by
  unfold ofItem at read
  split at read
  next => exact isWritable_default.setMembers read
  next => exact isWritable_default.setItems read
  next => exact isWritable_default.setItems read
  next =>
    cases read
    exact isWritable_default
  next => cases read

end HttpSettings

namespace Config

open HttpSettings (Field)

theorem isWritable_of_ofMembers {members : Members} {config : Config}
    (read : ofMembers members = .ok config) : config.http.IsWritable := by
  induction members with
  | nil =>
    cases read
    exact HttpSettings.isWritable_default
  | cons entry members ih =>
    obtain ⟨name, item⟩ := entry
    rw [ofMembers] at read
    split at read
    next =>
      obtain ⟨settings, given, rfl⟩ := exists_of_map_eq_ok read
      exact HttpSettings.isWritable_of_ofItem given
    next => exact ih read

theorem isWritable_of_parse {text : String} {config : Config} (read : parse text = .ok config) :
    config.http.IsWritable := by
  unfold parse at read
  split at read
  next => cases read
  next =>
    split at read
    next accepted =>
      cases read
      exact isWritable_of_ofMembers accepted
    next => cases read

/-! ## What is written is read -/

/-- The lines of a configuration. -/
def lines (s : HttpSettings) : List Line :=
  (s.connectTimeoutSecs.map fun n =>
    ⟨Field.connectTimeoutSecs.key, n.toNat.repr, .integer (Int64.ofInt n.toNat)⟩).toList ++
  [⟨Field.followRedirects.key, toString s.followRedirects, .boolean s.followRedirects⟩,
    ⟨Field.maxRedirections.key, s.maxRedirections.toNat.repr,
      .integer (Int64.ofInt s.maxRedirections.toNat)⟩]

theorem filled_key (field : Field) : field.key.toList ≠ [] := by
  cases field <;> decide

theorem isBare_key (field : Field) : ∀ c ∈ field.key.toList, Toml.isBare c := by
  rw [← List.all_eq_true]
  cases field <;> decide

theorem isReadable_number (field : Field) {n : Nat} (small : n < 2 ^ 63) :
    (⟨field.key, n.repr, .integer (Int64.ofInt n)⟩ : Line).IsReadable where
  filled := filled_key field
  bare := isBare_key field
  reads rest := by
    rw [Nat.toList_repr]
    exact Toml.scalarValue?_toDigits small rest

theorem isReadable_boolean (field : Field) (b : Bool) :
    (⟨field.key, toString b, .boolean b⟩ : Line).IsReadable where
  filled := filled_key field
  bare := isBare_key field
  reads := Toml.scalarValue?_boolean b

theorem isReadable_lines {s : HttpSettings} (writable : s.IsWritable) :
    ∀ line ∈ lines s, line.IsReadable := by
  have most : Int64.maxValue.toInt = 2 ^ 63 - 1 := rfl
  have redirections := s.maxRedirections.toNat_lt
  intro line member
  rcases List.mem_append.1 member with timeout | other
  · obtain ⟨n, set, rfl⟩ := Option.map_eq_some_iff.1 (Option.mem_toList.1 timeout)
    have small := writable n set
    exact isReadable_number .connectTimeoutSecs (by omega)
  · simp only [List.mem_cons, List.not_mem_nil, or_false] at other
    rcases other with rfl | rfl
    · exact isReadable_boolean .followRedirects _
    · exact isReadable_number .maxRedirections (by omega)

theorem nodup_lines (s : HttpSettings) : ((lines s).map Line.key).Nodup := by
  cases timeout : s.connectTimeoutSecs with
  | none => simp [lines, timeout, Field.key]
  | some n => simp [lines, timeout, Field.key]

theorem toList_line (field : Field) (value : String) (scalar : Scalar) :
    (line field value).toList = Line.chars ⟨field.key, value, scalar⟩ := by
  simp [line, Line.chars]

theorem write_eq {config : Config} {text : String} (written : config.write = .ok text) :
    config.http.IsWritable ∧
      text.toList = '[' :: (httpKey.toList ++ ']' :: '\n' :: Toml.linesChars (lines config.http)) := by
  have most : Int64.maxValue.toInt = 2 ^ 63 - 1 := rfl
  unfold write at written
  cases timeout : config.http.connectTimeoutSecs with
  | none =>
    simp only [timeout] at written
    cases written
    refine ⟨by simp [HttpSettings.IsWritable, timeout], ?_⟩
    simp [lines, timeout, Toml.linesChars, ← toList_line]
  | some n =>
    simp only [timeout] at written
    split at written
    -- The bound that the writer checks is that of the numbers of a document.
    next small =>
      have below : n.toNat < 2 ^ 63 := small
      cases written
      refine ⟨?_, ?_⟩
      · rintro seconds same
        rw [timeout] at same
        cases same
        omega
      · simp [lines, timeout, Toml.linesChars, ← toList_line]
    next => cases written

theorem exists_write {config : Config} (writable : config.http.IsWritable) :
    ∃ text, config.write = .ok text := by
  have most : Int64.maxValue.toInt = 2 ^ 63 - 1 := rfl
  unfold write
  cases timeout : config.http.connectTimeoutSecs with
  | none => exact ⟨_, rfl⟩
  | some n =>
    have below := writable n timeout
    have small : n.toNat < Nat.pow 2 63 := show n.toNat < 2 ^ 63 by omega
    simp only [if_pos small]
    exact ⟨_, rfl⟩

theorem setMembers_cons {s t : HttpSettings} {field : Field} {span : Span} {item : Item}
    (sets : s.setField field span item = .ok t) (members : Members) :
    s.setMembers ((⟨field.key, span⟩, item) :: members) = t.setMembers members := by
  have known : Field.ofKey? field.key = some field := by
    cases field <;> decide
  simp only [HttpSettings.setMembers, known, sets]

theorem setField_timeout (s : HttpSettings) {n : UInt64} (small : n.toNat < 2 ^ 63)
    (place span : Span) :
    s.setField .connectTimeoutSecs place (.scalar span (.integer (Int64.ofInt n.toNat))) =
      .ok { s with connectTimeoutSecs := some n } := by
  simp only [HttpSettings.setField, word64, natural_ofInt small n.toNat_lt_size]
  simp [Except.map]

theorem setField_redirects (s : HttpSettings) (b : Bool) (place span : Span) :
    s.setField .followRedirects place (.scalar span (.boolean b)) =
      .ok { s with followRedirects := b } := by
  simp only [HttpSettings.setField, boolean, Except.map]

theorem setField_redirections (s : HttpSettings) (n : UInt32) (place span : Span) :
    s.setField .maxRedirections place (.scalar span (.integer (Int64.ofInt n.toNat))) =
      .ok { s with maxRedirections := n } := by
  have small : n.toNat < 2 ^ 63 := Nat.lt_trans n.toNat_lt (by decide)
  simp only [HttpSettings.setField, word32, natural_ofInt small n.toNat_lt_size]
  simp [Except.map]

/-- Behind the timeout, which may be missing, the other lines set all the rest. -/
theorem setMembers_others {s t : HttpSettings}
    (timeout : t.connectTimeoutSecs = s.connectTimeoutSecs)
    {entries : Members} (sets : List.Forall₂ Line.Sets
      [⟨Field.followRedirects.key, toString s.followRedirects, .boolean s.followRedirects⟩,
        ⟨Field.maxRedirections.key, s.maxRedirections.toNat.repr,
          .integer (Int64.ofInt s.maxRedirections.toNat)⟩] entries) :
    t.setMembers entries = .ok s := by
  obtain _ | ⟨⟨span, place, rfl⟩, _ | ⟨⟨span', place', rfl⟩, _ | _⟩⟩ := sets
  rw [setMembers_cons (setField_redirects t s.followRedirects span place),
    setMembers_cons (setField_redirections _ s.maxRedirections span' place')]
  simp only [HttpSettings.setMembers, timeout]

theorem setMembers_lines {s : HttpSettings} (writable : s.IsWritable) {entries : Members}
    (sets : List.Forall₂ Line.Sets (lines s) entries) :
    HttpSettings.default.setMembers entries = .ok s := by
  have most : Int64.maxValue.toInt = 2 ^ 63 - 1 := rfl
  cases timeout : s.connectTimeoutSecs with
  | none =>
    simp only [lines, timeout, Option.map_none, Option.toList_none, List.nil_append] at sets
    exact setMembers_others timeout.symm sets
  | some n =>
    have below := writable n timeout
    simp only [lines, timeout, Option.map_some, Option.toList_some, List.singleton_append] at sets
    obtain _ | ⟨⟨span, place, rfl⟩, others⟩ := sets
    rw [setMembers_cons (setField_timeout _ (by omega) span place)]
    exact setMembers_others timeout.symm others

theorem parse_of_write {config : Config} {text : String} (written : config.write = .ok text) :
    parse text = .ok config := by
  obtain ⟨writable, spelled⟩ := write_eq written
  have bare : ∀ c ∈ httpKey.toList, Toml.isBare c := by
    rw [← List.all_eq_true]
    decide
  obtain ⟨span, place, entries, sets, read⟩ := Toml.parse?_section (by decide) bare
    (isReadable_lines writable) (nodup_lines config.http) spelled
  have settings := setMembers_lines writable sets
  simp [parse, read, ofMembers, HttpSettings.ofItem, settings, Except.map]

/-! ## Both -/

theorem isUsable_options {s : HttpSettings} (writable : s.IsWritable) : s.options.isUsable := by
  have most : Int64.maxValue.toInt = Nat.pow 2 63 - 1 := rfl
  refine Http.Options.isUsable_iff.2 fun timeout set => ?_
  obtain ⟨n, given, rfl⟩ := Option.map_eq_some_iff.1 set
  have below := writable n given
  simp only [Duration.ofSeconds]
  omega

/-- A configuration that was read from a document: it can be written and read back, and with it a
transfer never fails for a bad setting. -/
structure Settled (config : Config) : Prop where
  writable : config.http.IsWritable
  restores : ∃ text, config.write = .ok text ∧ parse text = .ok config
  usable : config.http.options.isUsable
  transfers : ∀ {σ : Type} (net : Network σ) (url : Url) (site : Site σ) (e : Http.TransferError),
    (Http.get net config.http.options url site).1 = .error e → e.code = 43 →
      ∃ address, net.refusal? address = some e.fault

theorem settled_of_isWritable {config : Config} (writable : config.http.IsWritable) :
    config.Settled where
  writable
  restores := by
    obtain ⟨text, written⟩ := exists_write writable
    exact ⟨text, written, parse_of_write written⟩
  usable := isUsable_options writable
  transfers net url site e failed bad := by
    obtain found | refused := Http.get_error (isUsable_options writable) failed
    · exact absurd bad found.code_ne
    · exact refused

/-- A configuration is written if its timeout is in range, and then it is read back. Whatever
document a configuration comes from, it is one of these. -/
theorem write_and_parse (config : Config) :
    ((∃ text, config.write = .ok text) ↔ config.http.IsWritable) ∧
      (∀ text, config.write = .ok text → parse text = .ok config) ∧
      ∀ document, parse document = .ok config → config.Settled := by
  refine ⟨⟨?_, exists_write⟩, fun text => parse_of_write, fun document read => ?_⟩
  · rintro ⟨text, written⟩
    exact (write_eq written).1
  · exact settled_of_isWritable (isWritable_of_parse read)

end Config

end VectorFetch

import VectorFetch.Proofs.Text.Split
import VectorFetch.Proofs.Text.Utf8
import VectorFetch.Url.Domain

/-!
# Domain names that were read

* `Punycode.mem_encode`: what a label in ASCII holds.
* `Label.Stands`: the ASCII form of a label stands for the label.
* `ascii?_again`: the ASCII form of a name is read as it is.
* `ascii?_of_plain`: a name of labels that are plain ASCII is read as it is.
-/

namespace VectorFetch.Url

/-- Bytes without a mark of encoding stay as they are. -/
theorem Percent.decode_eq_self {bytes : Bytes} (plain : 37 ∉ bytes) : decode bytes = bytes := by
  fun_induction decode bytes with
  | case1 => simp at plain
  | case2 => simp at plain
  | case3 a rest other ih => rw [ih (List.not_mem_of_not_mem_cons plain)]
  | case4 => rfl

theorem Percent.decode_encodeChars {s : List Char} (plain : '%' ∉ s) :
    decode (Utf8.encodeChars s) = Utf8.encodeChars s := by
  refine decode_eq_self fun mark => plain ?_
  exact Utf8.ofUInt8_mem_of_mem_encodeChars (by decide) mark

namespace Domain

/-! ## Labels in ASCII -/

namespace Punycode

theorem mem_digits {bias k n : Nat} {c : Char} (member : c ∈ digits bias k n) :
    ∃ m < 36, c = digit m := by
  have most := threshold_le
  fun_induction digits bias k n with
  | case1 k n t small =>
    refine ⟨n, ?_, List.mem_singleton.1 member⟩
    have := most k bias
    omega
  | case2 k n t large ih =>
    rcases List.mem_cons.1 member with rfl | behind
    · refine ⟨_, ?_, rfl⟩
      -- No threshold reaches the base, so the digits do not run out.
      have room : 0 < 36 - t := by have := most k bias; omega
      have rest := Nat.mod_lt (n - t) room
      omega
    · exact ih behind

/-- Everything that a writer has written is a digit. -/
def Writer.IsDigits (w : Writer) : Prop := ∀ c ∈ w.written, ∃ m < 36, c = digit m

theorem Writer.IsDigits.pass {w : Writer} (digits : w.IsDigits) (n basic : Nat) (c : Char) :
    (w.pass n basic c).IsDigits := by
  unfold Writer.pass
  split
  next => exact digits
  next =>
    split
    next =>
      intro x member
      exact (List.mem_append.1 member).elim (digits x) mem_digits
    next => exact digits

theorem Writer.IsDigits.passAll {w : Writer} (digits : w.IsDigits) (n basic : Nat)
    (label : List Char) : (label.foldl (Writer.pass n basic) w).IsDigits := by
  induction label generalizing w with
  | nil => exact digits
  | cons c label ih => exact ih (digits.pass n basic c)

theorem Writer.IsDigits.run {w : Writer} (digits : w.IsDigits) (label : List Char)
    (basic fuel n : Nat) : ∀ c ∈ Writer.run label basic fuel n w, ∃ m < 36, c = digit m := by
  fun_induction Writer.run label basic fuel n w with
  | case1 => exact digits
  | case2 => exact digits
  | case3 w n fuel m least w' passed ih =>
    have due : w'.IsDigits := digits
    exact ih (due.passAll m basic label)

/-- A label in ASCII holds characters of the label itself, a dash, and digits. -/
theorem mem_encode {label : List Char} {c : Char} (member : c ∈ encode label) :
    c ∈ label ∨ c = '-' ∨ ∃ m < 36, c = digit m := by
  unfold encode at member
  dsimp only at member
  rcases List.mem_append.1 member with start | behind
  · split at start
    next => cases start
    next =>
      rcases List.mem_append.1 start with own | dash
      · exact .inl (List.mem_filter.1 own).1
      · exact .inr (.inl (List.mem_singleton.1 dash))
  · have none : Writer.IsDigits ⟨[], 0, 72, (label.filter fun c => c.toNat < 0x80).length⟩ := nofun
    exact .inr (.inr (none.run label _ _ _ c behind))

theorem dot_not_mem_encode {label : List Char} (plain : '.' ∉ label) : '.' ∉ encode label := by
  intro member
  have noDigit : ∀ m < 36, '.' ≠ digit m := by decide
  rcases mem_encode member with own | dash | ⟨m, small, same⟩
  · exact plain own
  · cases dash
  · exact noDigit m small same

end Punycode

/-! ## Labels -/

/-- The ASCII form of a label stands for the label, and it is a single one. -/
structure Label.Stands (label : Label) : Prop where
  single : '.' ∉ label.ascii
  again : label? label.ascii = some label

theorem stands_of_codedLabel? {code : List Char} {label : Label} (plain : '.' ∉ code)
    (read : codedLabel? code = some label) : label.Stands := by
  have ascii : label.ascii = codeMark ++ code := by
    unfold codedLabel? at read
    grind
  constructor
  · rw [ascii, List.mem_append, not_or]
    exact ⟨by decide, plain⟩
  · rw [ascii, label?, if_pos (List.isPrefixOf_iff_prefix.2 (List.prefix_append _ _)),
      List.drop_left]
    exact read

theorem stands_of_label? {s : List Char} {label : Label} (plain : '.' ∉ s)
    (read : label? s = some label) : label.Stands := by
  have whole := read
  unfold label? at read
  split at read
  next => exact stands_of_codedLabel? (fun dot => plain (List.mem_of_mem_drop dot)) read
  next =>
    split at read
    next =>
      cases read
      exact ⟨plain, whole⟩
    next =>
      split at read
      next => cases read
      next coded spelled =>
        obtain ⟨-, same⟩ := Option.ite_none_right_eq_some.1 read
        cases same
        exact stands_of_codedLabel? (Punycode.dot_not_mem_encode plain) spelled

theorem stands_of_labels? {name : List Char} {labels : List Label}
    (read : labels? name = some labels) : labels ≠ [] ∧ ∀ label ∈ labels, label.Stands := by
  have each : (name.splitOn '.').map label? = labels.map some := mapM_eq_some_iff.1 read
  constructor
  · rintro rfl
    exact List.splitOn_ne_nil '.' name (List.map_eq_nil_iff.1 each)
  · intro label member
    obtain ⟨s, piece, spelled⟩ := List.mem_map.1 (each ▸ List.mem_map_of_mem member)
    exact stands_of_label? (fun dot => (of_mem_splitOn piece '.' dot).2 rfl) spelled

theorem labels?_again {labels : List Label} (filled : labels ≠ [])
    (stand : ∀ label ∈ labels, label.Stands) :
    labels? (['.'].intercalate (labels.map Label.ascii)) = some labels := by
  have single : ∀ s ∈ labels.map Label.ascii, '.' ∉ s := by
    simpa using fun label member => (stand label member).single
  rw [labels?, List.splitOn_intercalate '.' single (by simpa using filled), mapM_eq_some_iff,
    List.map_map]
  exact List.map_congr_left fun label member => (stand label member).again

/-! ## Names -/

/-- A character that a name in ASCII may hold. -/
def isAllowed (c : Char) : Bool := isAscii c && !isForbidden c

theorem lower_eq_self {c : Char} (allowed : isAllowed c) : lower c = c := by
  have small : ¬('A' ≤ c ∧ c ≤ 'Z') := by
    rintro ⟨low, high⟩
    simp [isAllowed, isForbidden, low, high] at allowed
  exact if_neg small

theorem normal?_eq_self {s : List Char} (allowed : ∀ c ∈ s, isAllowed c) : normal? s = some s := by
  have ascii : ∀ c ∈ s, c.toNat < 0x80 := fun c member =>
    of_decide_eq_true (Bool.and_eq_true_iff.1 (allowed c member)).1
  have mapped : s.mapM map? = some (s.map fun c => [c]) := by
    rw [mapM_eq_some_iff, List.map_map]
    refine List.map_congr_left fun c member => ?_
    rw [map?, if_pos (ascii c member), lower_eq_self (allowed c member)]
    rfl
  rw [normal?, mapped, Option.map_some, ← List.flatMap_def, List.flatMap_singleton', compose,
    if_pos]
  exact List.all_eq_true.2 fun c member => decide_eq_true (ascii c member)

variable {bytes : Bytes} {name : List Char}

theorem ascii?_eq_some (read : ascii? bytes = some name) :
    (∃ labels, labels ≠ [] ∧ (∀ label ∈ labels, label.Stands) ∧ isReadable labels ∧
      name = ['.'].intercalate (labels.map Label.ascii)) ∧ ∀ c ∈ name, isAllowed c := by
  obtain ⟨chars, -, read⟩ := Option.bind_eq_some_iff.1 read
  obtain ⟨normal, -, read⟩ := Option.bind_eq_some_iff.1 read
  obtain ⟨labels, spelled, read⟩ := Option.bind_eq_some_iff.1 read
  dsimp only at read
  obtain ⟨fits, same⟩ := Option.ite_none_right_eq_some.1 read
  cases same
  simp only [Bool.and_eq_true, Bool.not_eq_true', List.all_eq_true, List.any_eq_false] at fits
  obtain ⟨filled, stand⟩ := stands_of_labels? spelled
  refine ⟨⟨labels, filled, stand, fits.1.1, rfl⟩, fun c member => ?_⟩
  simp [isAllowed, fits.1.2 c member, fits.2 c member]

/-- Labels that stand for themselves make a name that is read as it is. -/
theorem ascii?_of_stands {labels : List Label} (filled : labels ≠ [])
    (stand : ∀ label ∈ labels, label.Stands) (readable : isReadable labels)
    (allowed : ∀ c ∈ ['.'].intercalate (labels.map Label.ascii), isAllowed c) :
    ascii? (Percent.decode (Utf8.encodeChars (['.'].intercalate (labels.map Label.ascii)))) =
      some (['.'].intercalate (labels.map Label.ascii)) := by
  have plain : '%' ∉ ['.'].intercalate (labels.map Label.ascii) := fun mark =>
    absurd (allowed '%' mark) (by decide)
  have fits : ∀ c ∈ ['.'].intercalate (labels.map Label.ascii), isAscii c ∧ isForbidden c = false := by
    intro c member
    simpa [isAllowed] using allowed c member
  rw [Percent.decode_encodeChars plain, ascii?, Utf8.decode_encodeChars]
  simp only [Except.toOption, Option.bind_eq_bind, Option.bind_some, normal?_eq_self allowed,
    labels?_again filled stand]
  rw [if_pos]
  simp only [readable, Bool.true_and, Bool.and_eq_true, Bool.not_eq_true', List.all_eq_true,
    List.any_eq_false]
  exact ⟨fun c member => (fits c member).1, fun c member => by simp [(fits c member).2]⟩

/-- The ASCII form of a name is read as it is. -/
theorem ascii?_again (read : ascii? bytes = some name) :
    ascii? (Percent.decode (Utf8.encodeChars name)) = some name := by
  obtain ⟨⟨labels, filled, stand, readable, rfl⟩, allowed⟩ := ascii?_eq_some read
  exact ascii?_of_stands filled stand readable allowed

/-- A label in ASCII that stands for no other one. -/
structure IsPlain (s : List Char) : Prop where
  allowed : ∀ c ∈ s, isAllowed c
  single : '.' ∉ s
  uncoded : ¬codeMark.isPrefixOf s

theorem IsPlain.stands {s : List Char} (plain : IsPlain s) : Label.Stands ⟨s, s⟩ where
  single := plain.single
  again := by
    have ascii : ∀ c ∈ s, isAscii c := fun c member =>
      (Bool.and_eq_true_iff.1 (plain.allowed c member)).1
    rw [label?, if_neg plain.uncoded, if_pos (List.all_eq_true.2 ascii)]

theorem isReadable_of_plain {pieces : List (List Char)} (plain : ∀ s ∈ pieces, IsPlain s) :
    isReadable (pieces.map fun s => ⟨s, s⟩) := by
  have left : ∀ s ∈ pieces, isRightToLeft s = false := by
    intro s member
    rw [isRightToLeft, List.any_eq_false]
    intro c here
    have ascii : c.toNat < 0x80 :=
      of_decide_eq_true (Bool.and_eq_true_iff.1 ((plain s member).allowed c here)).1
    rw [decide_eq_false (show ¬0x590 ≤ c.toNat by omega), Bool.false_and]
    exact Bool.false_ne_true
  rw [isReadable, Bool.or_eq_true, Bool.not_eq_true', List.any_map, List.any_eq_false]
  exact .inl fun s member => Bool.not_eq_true _ ▸ left s member

/-- A name of plain labels is read as it is. -/
theorem ascii?_of_plain {pieces : List (List Char)} (filled : pieces ≠ [])
    (plain : ∀ s ∈ pieces, IsPlain s) :
    ascii? (Percent.decode (Utf8.encodeChars (['.'].intercalate pieces))) =
      some (['.'].intercalate pieces) := by
  have same : (pieces.map fun s => Label.mk s s).map Label.ascii = pieces := by
    rw [List.map_map]
    exact List.map_id' pieces
  have labels : (pieces.map fun s => Label.mk s s) ≠ [] := by simpa using filled
  have read := ascii?_of_stands labels (by simpa using fun s member => (plain s member).stands)
    (isReadable_of_plain plain)
  rw [same] at read
  refine read fun c member => ?_
  rcases mem_intercalate member with dot | ⟨s, there, here⟩
  · obtain rfl := List.mem_singleton.1 dot
    decide
  · exact (plain s there).allowed c here

end Domain

end VectorFetch.Url

import Mathlib.Data.List.TakeWhile
import VectorFetch.Proofs.Text.Digits
import VectorFetch.Proofs.Text.Split
import VectorFetch.Url.IPv6

/-!
# Addresses in URLs

* `IPv4.digits?_toDigits`: a number is read from its digits.
* `IPv4.parse?_text`: an address of four bytes is read as it is written.
* `IPv6.longestRun_spec`: the pieces around the zeros that are left out.
* `IPv6.parse?_chars`: an address of eight pieces is read as it is written.
-/

namespace VectorFetch.Url

namespace IPv4

/-! ## Numbers -/

theorem digits?_concat (base : Nat) (cs : List Char) (c : Char) :
    digits? base (cs ++ [c]) = (digits? base cs).bind fun n =>
      (Radix.digit? base c).map fun d => n * base + d := by
  unfold digits?
  rw [List.foldl_append, List.foldl_cons, List.foldl_nil]
  cases cs.foldl _ (some 0) with
  | none => rfl
  | some n =>
    cases Radix.digit? base c with
    | none => rfl
    | some d => rfl

theorem digits?_toDigits {base : Nat} (least : 1 < base) (most : base ≤ 16) (n : Nat) :
    digits? base (Nat.toDigits base n) = some n := by
  have digit : ∀ base ≤ 16, ∀ d < base, Radix.digit? base (Nat.digitChar d) = some d := by decide
  -- By induction on the number, whose last digit comes off the end.
  induction n using Nat.strongRecOn with
  | ind n ih =>
    rw [Nat.toDigits_eq_if least]
    split
    next small =>
      rw [← List.nil_append [_], digits?_concat, digit base most n small]
      simp [digits?]
    next large =>
      have smaller : n / base < n := Nat.div_lt_self (by omega) least
      have last := digit base most (n % base) (Nat.mod_lt n (by omega))
      rw [digits?_concat, ih _ smaller, last, Option.bind_some, Option.map_some, Nat.div_add_mod']

theorem isDigit_of_mem {c : Char} {n : Nat} (member : c ∈ Nat.toDigits 10 n) :
    '0' ≤ c ∧ c ≤ '9' := by
  simpa using isDigit_of_mem_toDigits member

theorem number?_toDigits (n : Nat) : number? (Nat.toDigits 10 n) = some n := by
  have read : digits? 10 (Nat.toDigits 10 n) = some n := digits?_toDigits (by decide) (by decide) n
  by_cases zero : n = 0
  · subst zero
    decide
  · have front : (Nat.toDigits 10 n).head? ≠ some '0' := fun front =>
      zero (eq_zero_of_head?_toDigits front)
    obtain ⟨c, cs, spelled⟩ := List.exists_cons_of_ne_nil (@Nat.toDigits_ne_nil n 10)
    rw [spelled] at front read ⊢
    have other : c ≠ '0' := fun same => front (congrArg some same)
    unfold number?
    split <;> simp_all

/-! ## Addresses of four bytes -/

theorem text_toList (a : IPv4) :
    a.text.toList = ['.'].intercalate (a.bytes.map (Nat.toDigits 10)) := by
  rw [text, String.toList_intercalate, List.map_map]
  congr 1
  exact List.map_congr_left fun n _ => Nat.toList_repr

theorem labels_text (a : IPv4) : labels a.text.toList = a.bytes.map (Nat.toDigits 10) := by
  rw [labels, text_toList]
  refine List.splitOn_intercalate '.' ?_ (by simp [bytes])
  intro digits member dot
  obtain ⟨n, -, rfl⟩ := List.mem_map.1 member
  exact absurd (isDigit_of_mem dot) (by decide)

theorem reverse_labels_text (a : IPv4) : ∃ front,
    labels a.text.toList = front ++ [Nat.toDigits 10 (a.value.toNat % 256)] := by
  rw [labels_text]
  exact ⟨a.bytes.dropLast.map (Nat.toDigits 10), rfl⟩

/-- A name of four numbers is written like an address. -/
theorem endsInNumber_text (a : IPv4) : endsInNumber a.text.toList := by
  obtain ⟨front, labels⟩ := reverse_labels_text a
  have last : lastLabel a.text.toList = Nat.toDigits 10 (a.value.toNat % 256) := by
    rw [lastLabel, labels, List.reverse_concat]
    split
    next empty => exact absurd (List.cons.inj empty).1 Nat.toDigits_ne_nil
    next same => exact (List.cons.inj same).1.symm
    next none => cases none
  simp [endsInNumber, last, number?_toDigits]

theorem parse?_text (a : IPv4) : parse? a.text.toList = some a := by
  have parts : parts a.text.toList = a.bytes.map (Nat.toDigits 10) := by
    obtain ⟨front, labels⟩ := reverse_labels_text a
    rw [← labels_text, IPv4.parts, labels, List.reverse_concat]
    split
    next empty => exact absurd (List.cons.inj empty).1 Nat.toDigits_ne_nil
    next => rw [List.reverse_cons, List.reverse_reverse]
  have numbers : (a.bytes.map (Nat.toDigits 10)).mapM number? = some a.bytes := by
    rw [mapM_eq_some_iff, List.map_map]
    exact List.map_congr_left fun n _ => number?_toDigits n
  have below := a.value.toNat_lt
  have whole : assemble? a.bytes = some a.value.toNat := by
    have two : Nat.pow 256 2 = 65536 := rfl
    have three : Nat.pow 256 3 = 16777216 := rfl
    rw [bytes, assemble?, two, three, if_pos (by omega), Option.some.injEq]
    omega
  rw [parse?, parts, numbers]
  dsimp only
  rw [whole, Option.map_some, UInt32.ofNat_toNat]

end IPv4

namespace IPv6

/-! ## Single pieces -/

theorem mem_pieceText {p : UInt16} {c : Char} (member : c ∈ pieceText p) :
    ∃ d < 16, c = Nat.digitChar d := by
  have all : ∀ n : Nat, ∀ c ∈ Nat.toDigits 16 n, ∃ d < 16, c = Nat.digitChar d := by
    intro n
    induction n using Nat.strongRecOn with
    | ind n ih =>
      rw [Nat.toDigits_eq_if (by decide)]
      split
      next small =>
        intro c member
        exact ⟨n, small, List.mem_singleton.1 member⟩
      next large =>
        intro c member
        rcases List.mem_append.1 member with front | last
        · exact ih _ (by omega) c front
        · exact ⟨_, Nat.mod_lt n (by decide), List.mem_singleton.1 last⟩
  exact all _ c member

theorem not_mem_pieceText {c : Char} (other : ∀ d < 16, c ≠ Nat.digitChar d) (p : UInt16) :
    c ∉ pieceText p := by
  intro member
  obtain ⟨d, small, same⟩ := mem_pieceText member
  exact other d small same

theorem piece?_pieceText (p : UInt16) : piece? (pieceText p) = some p := by
  have short : (pieceText p).length ≤ 4 :=
    (Nat.length_toDigits_le_iff (by decide) (by decide)).2 p.toNat_lt
  have filled : pieceText p ≠ [] := Nat.toDigits_ne_nil
  rw [piece?, if_neg (by simp [filled, short]), pieceText,
    IPv4.digits?_toDigits (by decide) (by decide), Option.map_some, UInt16.ofNat_toNat]

theorem dotted?_pieceText (p : UInt16) : dotted? (pieceText p) = none := by
  have dot := not_mem_pieceText (c := '.') (by decide) p
  rw [dotted?, List.splitOn_eq_singleton dot]
  cases read : decimalByte? (pieceText p) <;> simp [read]

/-! ## Pieces between colons -/

theorem pieces?_map_pieceText (pieces : List UInt16) :
    pieces? (pieces.map pieceText) = some pieces := by
  induction pieces with
  | nil => rfl
  | cons p pieces ih =>
    cases pieces with
    | nil => simp [pieces?, dotted?_pieceText, piece?_pieceText]
    | cons q pieces =>
      rw [List.map_cons] at ih
      rw [List.map_cons, List.map_cons, pieces?, ih, piece?_pieceText]
      simp

theorem splitOn_joinPieces (p : UInt16) (pieces : List UInt16) :
    (joinPieces (p :: pieces)).splitOn ':' = (p :: pieces).map pieceText := by
  refine List.splitOn_intercalate ':' ?_ (by simp)
  intro s member
  obtain ⟨q, -, rfl⟩ := List.mem_map.1 member
  exact not_mem_pieceText (by decide) q

theorem joinPieces_eq_cons (p : UInt16) (pieces : List UInt16) :
    ∃ c cs, joinPieces (p :: pieces) = c :: cs ∧ c ≠ ':' := by
  obtain ⟨c, cs, spelled⟩ : ∃ c cs, pieceText p = c :: cs :=
    List.exists_cons_of_ne_nil Nat.toDigits_ne_nil
  have plain : c ≠ ':' := fun same =>
    not_mem_pieceText (by decide) p (same ▸ spelled ▸ List.mem_cons_self)
  cases pieces with
  | nil => exact ⟨c, cs, by simp [joinPieces, spelled], plain⟩
  | cons q pieces =>
    refine ⟨c, cs ++ ':' :: joinPieces (q :: pieces), ?_, plain⟩
    simp [joinPieces, spelled]

theorem fields_joinPieces (pieces : List UInt16) :
    fields (joinPieces pieces) = pieces.map pieceText := by
  cases pieces with
  | nil => rfl
  | cons p pieces =>
    obtain ⟨c, cs, spelled, -⟩ := joinPieces_eq_cons p pieces
    rw [fields, if_neg (by simp [spelled]), splitOn_joinPieces]

/-! ## Gaps -/

theorem splitAtGap_append {digits : List Char} (plain : ':' ∉ digits) (rest : List Char) :
    splitAtGap (digits ++ rest) =
      (splitAtGap rest).map fun (before, behind) => (digits ++ before, behind) := by
  induction digits with
  | nil => simp
  | cons c digits ih =>
    rw [List.mem_cons, not_or] at plain
    rw [List.cons_append, splitAtGap, ih plain.2, Option.map_map]
    · rfl
    · rintro _ rfl
      exact absurd rfl plain.1

/-- A single colon is no gap. -/
theorem splitAtGap_colon {c : Char} (plain : c ≠ ':') (rest : List Char) :
    splitAtGap (':' :: c :: rest) =
      (splitAtGap (c :: rest)).map fun (before, behind) => (':' :: before, behind) := by
  rw [splitAtGap]
  rintro _ - same
  exact absurd (List.cons.inj same).1 plain

/-- There is no gap between pieces. -/
theorem splitAtGap_joinPieces (pieces : List UInt16) (rest : List Char) :
    splitAtGap (joinPieces pieces ++ rest) =
      (splitAtGap rest).map fun (before, behind) => (joinPieces pieces ++ before, behind) := by
  have plain := not_mem_pieceText (c := ':') (by decide)
  induction pieces with
  | nil => simp [joinPieces]
  | cons p pieces ih =>
    cases pieces with
    | nil =>
      rw [joinPieces, List.map_singleton, List.intercalate_singleton]
      exact splitAtGap_append (plain p) rest
    | cons q pieces =>
      -- Between two pieces there is a single colon, which is no gap.
      have front : joinPieces (p :: q :: pieces) = pieceText p ++ ':' :: joinPieces (q :: pieces) := by
        simp [joinPieces]
      obtain ⟨c, cs, spelled, other⟩ := joinPieces_eq_cons q pieces
      rw [front, List.append_assoc, splitAtGap_append (plain p), List.cons_append, spelled,
        List.cons_append, splitAtGap_colon other, ← List.cons_append, ← spelled, ih, Option.map_map,
        Option.map_map]
      congr 1
      funext gap
      simp

/-! ## Runs of zeros -/

theorem leadingZeros_spec (pieces : List UInt16) :
    pieces = List.replicate (leadingZeros pieces) 0 ++ pieces.drop (leadingZeros pieces) := by
  have zeros : pieces.takeWhile (· = 0) = List.replicate (leadingZeros pieces) 0 := by
    refine List.eq_replicate_of_mem fun p member => ?_
    simpa using List.mem_takeWhile_imp member
  have parts : pieces.takeWhile (· = 0) ++ pieces.dropWhile (· = 0) = pieces :=
    List.takeWhile_append_dropWhile
  have behind : pieces.drop (leadingZeros pieces) = pieces.dropWhile (· = 0) :=
    (congrArg (List.drop (leadingZeros pieces)) parts.symm).trans List.drop_left
  rw [← zeros, behind, parts]

/-- A longest run is one of zeros, between the pieces before it and those behind it. -/
theorem longestRun_spec (pieces : List UInt16) :
    pieces = pieces.take (longestRun pieces).1 ++ List.replicate (longestRun pieces).2 0 ++
      pieces.drop ((longestRun pieces).1 + (longestRun pieces).2) := by
  induction pieces with
  | nil => rfl
  | cons p pieces ih =>
    rw [longestRun]
    dsimp only
    split
    next =>
      rw [Nat.add_right_comm, List.take_succ_cons, List.drop_succ_cons, List.cons_append,
        List.cons_append, ← ih]
    next =>
      rw [List.take_zero, List.nil_append, Nat.zero_add]
      exact leadingZeros_spec _

/-- An address of eight pieces is read as it is written. -/
theorem parse?_chars (a : IPv6) : parse? a.chars = some a := by
  obtain ⟨pieces, eight⟩ := a
  have spec := longestRun_spec pieces
  rw [chars]
  dsimp only
  rcases run : longestRun pieces with ⟨start, length⟩
  rw [run] at spec
  dsimp only at spec ⊢
  split
  next short =>
    have none := splitAtGap_joinPieces pieces []
    rw [List.append_nil] at none
    rw [parse?, none, splitAtGap, Option.map_none]
    dsimp only
    rw [fields_joinPieces, pieces?_map_pieceText]
    exact dif_pos eight
  next long =>
    have sizes := congrArg List.length spec
    rw [List.length_append, List.length_append, List.length_replicate] at sizes
    have gap := splitAtGap_joinPieces (pieces.take start)
      (':' :: ':' :: joinPieces (pieces.drop (start + length)))
    have front : ((pieces.take start).map pieceText).mapM piece? = some (pieces.take start) := by
      rw [mapM_eq_some_iff, List.map_map]
      exact List.map_congr_left fun p _ => piece?_pieceText p
    rw [List.append_assoc, List.cons_append, List.cons_append, List.nil_append, parse?, gap,
      splitAtGap, Option.map_some]
    dsimp only
    rw [List.append_nil, fields_joinPieces, fields_joinPieces, front, pieces?_map_pieceText]
    dsimp only
    -- The pieces that are there say how long the run was.
    have missing : 8 - ((pieces.take start).length + (pieces.drop (start + length)).length) = length := by
      omega
    rw [if_pos (by omega), missing, ← spec]
    exact dif_pos eight

end IPv6

end VectorFetch.Url

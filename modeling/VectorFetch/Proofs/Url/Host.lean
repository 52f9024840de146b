import Mathlib.Data.Bool.AllAny
import VectorFetch.Proofs.Url.Address
import VectorFetch.Proofs.Url.Domain
import VectorFetch.Proofs.Url.Segments

/-!
# Hosts that were read

* `Host.IsWritten`: how a host is written, so that what stands around it is told from it.
* `Host.Stands`: the text of a host is read as the host.
* `Host.stands_of_parse`, `Host.stands_of_parseOpaque`: it is so for every host that is read.
-/

namespace VectorFetch.Url

theorem Percent.encode_ne_nil {set : Char → Bool} {s : List Char} (filled : s ≠ []) :
    encode set s ≠ [] := by
  obtain ⟨c, s, rfl⟩ := List.exists_cons_of_ne_nil filled
  obtain ⟨a, rest, bytes, -⟩ := Utf8.utf8EncodeChar_eq_cons c
  rw [encode, List.flatMap_cons, encodeChar]
  split
  next => simp [bytes, encodeByte]
  next => simp

namespace Host

/-- A character that is shown as it is and delimits nothing. -/
def isPlain (c : Char) : Bool := !isForbidden c && !Percent.inControls c

/-- A host is written without delimiters, or between brackets with colons in it. -/
inductive IsWritten : List Char → Prop where
  | plain {s : List Char} (each : ∀ c ∈ s, isPlain c) : IsWritten s
  | bracketed {inner : List Char} (each : ∀ c ∈ inner, c = ':' ∨ isPlain c) :
    IsWritten ('[' :: (inner ++ [']']))

/-- The text of a host is read as the host. -/
structure Stands (special : Bool) (host : Host) : Prop where
  written : IsWritten host.text.toList
  again : (if special then parse host.text.toList else parseOpaque host.text.toList) = .ok host

theorem Stands.filled {special : Bool} {host : Host} (stands : host.Stands special)
    (there : special ∨ host ≠ .empty) : host.text.toList ≠ [] := by
  intro empty
  have again := stands.again
  rw [empty] at again
  cases special with
  | true =>
    have refused : parse [] = .error .emptyHost := by decide +kernel
    cases refused.symm.trans again
  | false =>
    cases again
    exact there.elim (by decide) (· rfl)

/-! ## Addresses between brackets -/

theorem isPlain_of_mem_chars {address : IPv6} {c : Char} (member : c ∈ address.chars) :
    c = ':' ∨ isPlain c := by
  have digit : ∀ d < 16, isPlain (Nat.digitChar d) := by decide
  have joined : ∀ pieces : List UInt16, c ∈ IPv6.joinPieces pieces → c = ':' ∨ isPlain c := by
    intro pieces member
    rcases mem_intercalate member with colon | ⟨s, there, here⟩
    · exact .inl (List.mem_singleton.1 colon)
    · obtain ⟨p, -, rfl⟩ := List.mem_map.1 there
      obtain ⟨d, small, rfl⟩ := IPv6.mem_pieceText here
      exact .inr (digit d small)
  unfold IPv6.chars at member
  dsimp only at member
  split at member
  next => exact joined _ member
  next =>
    simp only [List.mem_append, List.mem_cons, List.not_mem_nil, or_false, or_self] at member
    rcases member with (front | colon) | behind
    · exact joined _ front
    · exact .inl colon
    · exact joined _ behind

theorem stands_ipv6 (special : Bool) (address : IPv6) : (Host.ipv6 address).Stands special := by
  have spelled : (Host.ipv6 address).text.toList = '[' :: (address.chars ++ [']']) := by
    simp [text, IPv6.text, String.toList_append]
  have inner : parseBracketed (address.chars ++ [']']) = .ok (.ipv6 address) := by
    rw [parseBracketed, List.reverse_concat]
    simp only [List.reverse_reverse, IPv6.parse?_chars]
  refine ⟨spelled ▸ .bracketed fun c => isPlain_of_mem_chars, ?_⟩
  rw [spelled, parse, parseOpaque, inner, ite_self]

theorem ne_empty_of_parseBracketed (inner : List Char) : parseBracketed inner ≠ .ok .empty := by
  unfold parseBracketed
  split
  next => split <;> nofun
  next => nofun

theorem stands_of_parseBracketed {special : Bool} {inner : List Char} {host : Host}
    (read : parseBracketed inner = .ok host) : host.Stands special := by
  unfold parseBracketed at read
  split at read
  next =>
    split at read
    next =>
      cases read
      exact stands_ipv6 special _
    next => cases read
  next => cases read

/-! ## Domain names -/

theorem isPlain_of_isAllowed {c : Char} (allowed : Domain.isAllowed c) : isPlain c := by
  have delimiters : ∀ c ∈ ['\x00', '\t', '\n', '\r', ' ', '#', '/', ':', '<', '>', '?', '@', '[',
      '\\', ']', '^', '|'], ¬Domain.isAllowed c := List.all_iff_forall_prop.1 (by decide)
  have shown : isForbidden c = false :=
    Bool.eq_false_iff.2 fun forbidden => delimiters c (List.contains_iff_mem.1 forbidden) allowed
  have bounds : c.toNat < 0x80 ∧ 0x20 < c.toNat ∧ c.toNat ≠ 0x7F := by
    simp only [Domain.isAllowed, Domain.isAscii, Domain.isForbidden, Bool.and_eq_true,
      Bool.not_eq_true', Bool.or_eq_false_iff, decide_eq_true_eq, decide_eq_false_iff_not] at allowed
    omega
  have visible : Percent.inControls c = false := by
    simp only [Percent.inControls, Bool.or_eq_false_iff, decide_eq_false_iff_not]
    omega
  simp [isPlain, shown, visible]

/-- A name that is read as it is, and how it is told from an address. -/
theorem parse_of_name {name : List Char} (filled : name ≠ [])
    (plain : ∀ c ∈ name, isPlain c)
    (again : Domain.ascii? (Percent.decode (Utf8.encodeChars name)) = some name) :
    parse name =
      if IPv4.endsInNumber name then
        match IPv4.parse? name with
        | some address => .ok (.ipv4 address)
        | none => .error .ipv4
      else .ok (.domain (String.ofList name)) := by
  unfold parse
  split
  next => exact absurd (plain '[' List.mem_cons_self) (by decide)
  next =>
    rw [again]
    exact if_neg (by simpa using filled)

theorem isPlain_toDigits (n : Nat) : Domain.IsPlain (Nat.toDigits 10 n) := by
  have digit : ∀ c ∈ Nat.toDigits 10 n, '0' ≤ c ∧ c ≤ '9' := fun c => IPv4.isDigit_of_mem
  refine ⟨fun c member => ?_, fun dot => absurd (digit '.' dot) (by decide), fun coded => ?_⟩
  · obtain ⟨low, high⟩ := digit c member
    have least : 48 ≤ c.toNat := low
    have most : c.toNat ≤ 57 := high
    have all : ∀ n, 48 ≤ n → n ≤ 57 → Domain.isAllowed (Char.ofNat n) := by decide
    exact Char.ofNat_toNat c ▸ all c.toNat least most
  · have letter := (List.isPrefixOf_iff_prefix.1 coded).subset (List.mem_cons_self (a := 'x'))
    exact absurd (digit 'x' letter) (by decide)

theorem stands_ipv4 (address : IPv4) : (Host.ipv4 address).Stands true := by
  have plain : ∀ s ∈ address.bytes.map (Nat.toDigits 10), Domain.IsPlain s := by
    intro s member
    obtain ⟨n, -, rfl⟩ := List.mem_map.1 member
    exact isPlain_toDigits n
  have filled : address.bytes.map (Nat.toDigits 10) ≠ [] := by simp [IPv4.bytes]
  have again := Domain.ascii?_of_plain filled plain
  rw [← IPv4.text_toList] at again
  have allowed : ∀ c ∈ address.text.toList, isPlain c := fun c member =>
    isPlain_of_isAllowed ((Domain.ascii?_eq_some again).2 c member)
  -- An address of four numbers is read as a name first, and its last label is a number.
  refine ⟨.plain allowed, ?_⟩
  rw [if_pos rfl]
  show parse address.text.toList = _
  have written : address.text.toList ≠ [] := by
    intro empty
    have count := congrArg List.length (IPv4.labels_text address)
    rw [empty, List.length_map] at count
    exact absurd count (by simp [IPv4.labels, IPv4.bytes])
  rw [parse_of_name written allowed again, if_pos (IPv4.endsInNumber_text address),
    IPv4.parse?_text]

/-- What is read as a host is written so that it is read as the host. -/
theorem stands_of_parse {s : List Char} {host : Host} (read : parse s = .ok host) :
    host.Stands true := by
  unfold parse at read
  split at read
  next => exact stands_of_parseBracketed read
  next =>
    split at read
    next => cases read
    next name ascii =>
      split at read
      next => cases read
      next filled =>
        -- What was made of the name is left as it is when it is read once more.
        have again := Domain.ascii?_again ascii
        have plain : ∀ c ∈ name, isPlain c := fun c member =>
          isPlain_of_isAllowed ((Domain.ascii?_eq_some ascii).2 c member)
        split at read
        next =>
          split at read
          next =>
            cases read
            exact stands_ipv4 _
          next => cases read
        next named =>
          cases read
          have spelled : (Host.domain (String.ofList name)).text.toList = name :=
            String.toList_ofList
          refine ⟨by rw [spelled]; exact .plain plain, ?_⟩
          rw [if_pos rfl, spelled, parse_of_name (by simpa using filled) plain again,
            if_neg named]

theorem ne_empty_of_parse {s : List Char} : parse s ≠ .ok .empty := by
  intro read
  exact (stands_of_parse read).filled (.inl rfl) rfl

/-! ## Other names -/

theorem parseOpaque_of_name {name : List Char} (filled : name ≠ [])
    (plain : ∀ c ∈ name, isPlain c) :
    parseOpaque name = .ok (.opaqueName (String.ofList name)) := by
  have parts : ∀ c ∈ name, isForbidden c = false ∧ Percent.inControls c = false := by
    simpa [isPlain] using plain
  unfold parseOpaque
  split
  next => exact absurd rfl filled
  next => exact absurd (plain '[' List.mem_cons_self) (by decide)
  next =>
    have encoded : Percent.encode Percent.inControls name = name :=
      Percent.encode_eq_self fun c member => Bool.eq_false_iff.1 (parts c member).2
    have allowed : ¬name.any isForbidden := by
      simpa using fun c member => (parts c member).1
    rw [if_neg allowed, encoded]

theorem stands_of_parseOpaque {s : List Char} {host : Host} (read : parseOpaque s = .ok host) :
    host.Stands false := by
  unfold parseOpaque at read
  split at read
  next =>
    cases read
    exact ⟨.plain nofun, rfl⟩
  next => exact stands_of_parseBracketed read
  next _ filled unbracketed =>
    split at read
    next => cases read
    next allowed =>
      cases read
      have spelled : (Host.opaqueName (String.ofList (Percent.encode Percent.inControls s))).text.toList =
          Percent.encode Percent.inControls s := String.toList_ofList
      have plain : ∀ c ∈ Percent.encode Percent.inControls s, isPlain c := by
        intro c member
        have visible : Percent.inControls c = false :=
          Bool.eq_false_iff.2 (Percent.not_of_mem_encode (by decide) (by decide) member)
        have digits : ∀ n < 16, isForbidden (Percent.digit n) = false := by decide
        have shown : isForbidden c = false := by
          by_contra forbidden
          rw [Bool.not_eq_false] at forbidden
          -- What is forbidden is no part of an encoded byte.
          refine allowed (List.any_eq_true.2 ⟨c, Percent.mem_of_mem_encode ?_ ?_ member, forbidden⟩)
          · rintro rfl
            exact absurd forbidden (by decide)
          · rintro n small rfl
            exact absurd forbidden (by simp [digits n small])
        simp [isPlain, visible, shown]
      have written : Percent.encode Percent.inControls s ≠ [] := Percent.encode_ne_nil filled
      refine ⟨by rw [spelled]; exact .plain plain, ?_⟩
      rw [if_neg Bool.false_ne_true, spelled, parseOpaque_of_name written plain]

/-- Only nothing is read as the host that is empty. -/
theorem eq_nil_of_parseOpaque {s : List Char} (read : parseOpaque s = .ok .empty) : s = [] := by
  unfold parseOpaque at read
  split at read
  next => rfl
  next => exact absurd read (ne_empty_of_parseBracketed _)
  next => split at read <;> cases read

end Host

end VectorFetch.Url

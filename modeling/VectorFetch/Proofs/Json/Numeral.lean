import VectorFetch.Json.Number

/-!
# Numerals

A numeral is a number literal taken apart: sign, digits before the point, digits behind
it, and exponent.

* `Numeral.text`: the literal. A numeral has exactly the texts that the grammar of
  numbers allows.
* `Numeral.normal`: the same number with its exponent spelled anew.
* `Numeral.ofText?`: takes a literal apart. By `ofText?_text` it gives back every numeral.
* `scan?`: what a reader holds behind a text of which every character belongs to a
  number. By `scan?_text` it reads every numeral, and by `exists_numeral_of_scan?` it
  completes nothing else.
-/

namespace VectorFetch.Json

open Number (Phase Move Scan)

/-! ## Numerals -/

/-- One digit or more. -/
structure IsDigits (digits : List Char) : Prop where
  ne_nil : digits ≠ []
  isDigit : ∀ d ∈ digits, d.isDigit

/-- The exponent of a numeral as it is spelled. -/
structure Exponent where
  mark : Char
  sign : Option Char
  digits : List Char
  mark_eq : mark = 'e' ∨ mark = 'E'
  sign_eq : ∀ s, sign = some s → s = '+' ∨ s = '-'
  isDigits : IsDigits digits
  deriving DecidableEq

/-- A number literal, taken apart. No digits behind the point mean that there is no
point. -/
structure Numeral where
  negative : Bool
  whole : List Char
  fraction : List Char
  exponent : Option Exponent
  isDigits : IsDigits whole
  /-- A zero stands first only if it stands alone. -/
  zero_alone : ∀ rest, whole = '0' :: rest → rest = []
  fraction_isDigit : ∀ d ∈ fraction, d.isDigit
  deriving DecidableEq

namespace Exponent

def text (x : Exponent) : List Char := x.mark :: (x.sign.toList ++ x.digits)

/-- The exponent with a small letter and a sign. -/
def normal (x : Exponent) : Exponent :=
  { x with
    mark := 'e'
    sign := some (x.sign.getD '+')
    mark_eq := .inl rfl
    sign_eq := by
      intro s equal
      cases sign : x.sign with
      | none => exact .inl (by simpa [sign] using equal.symm)
      | some t => exact x.sign_eq s (by simpa [sign] using equal) }

end Exponent

namespace Numeral

def signText (n : Numeral) : List Char := if n.negative then ['-'] else []

def fractionText (n : Numeral) : List Char :=
  if n.fraction = [] then [] else '.' :: n.fraction

def mantissaText (n : Numeral) : List Char := n.signText ++ n.whole ++ n.fractionText

def text (n : Numeral) : List Char :=
  match n.exponent with
  | none => n.mantissaText
  | some x => n.mantissaText ++ x.text

/-- The same number with its exponent spelled anew. -/
def normal (n : Numeral) : Numeral := { n with exponent := n.exponent.map Exponent.normal }

/-- The same digits with this exponent. -/
def withExponent (n : Numeral) (x : Exponent) : Numeral := { n with exponent := some x }

@[simp] theorem text_withExponent (n : Numeral) (x : Exponent) :
    (n.withExponent x).text = n.mantissaText ++ x.text := rfl

@[simp] theorem normal_withExponent (n : Numeral) (x : Exponent) :
    (n.withExponent x).normal = n.withExponent x.normal := rfl

theorem text_of_exponent_eq_none {n : Numeral} (plain : n.exponent = none) :
    n.text = n.mantissaText := by
  rw [text, plain]

theorem text_of_exponent_eq_some {n : Numeral} {x : Exponent} (last : n.exponent = some x) :
    n.text = n.mantissaText ++ x.text := by
  rw [text, last]

theorem text_normal_of_exponent_eq_some {n : Numeral} {x : Exponent} (last : n.exponent = some x) :
    n.normal.text = n.mantissaText ++ x.normal.text := by
  rw [text_of_exponent_eq_some (n := n.normal) (x := x.normal) (by simp [normal, last])]
  rfl

theorem normal_normal (n : Numeral) : n.normal.normal = n.normal := by
  cases exponent : n.exponent <;> simp [normal, exponent, Exponent.normal]

theorem normal_of_exponent_eq_none {n : Numeral} (plain : n.exponent = none) : n.normal = n := by
  cases n
  simp_all [normal]

end Numeral

/-! ## Taking a literal apart -/

namespace Exponent

/-- The sign at the front, and the rest. -/
def splitSign : List Char → Option Char × List Char
  | '+' :: rest => (some '+', rest)
  | '-' :: rest => (some '-', rest)
  | text => (none, text)

theorem splitSign_fst (text : List Char) (s : Char) (sign : (splitSign text).1 = some s) :
    s = '+' ∨ s = '-' := by
  unfold splitSign at sign
  split at sign
  · exact .inl (Option.some.inj sign).symm
  · exact .inr (Option.some.inj sign).symm
  · cases sign

instance (digits : List Char) : Decidable (IsDigits digits) :=
  decidable_of_iff (digits ≠ [] ∧ digits.all Char.isDigit)
    ⟨fun h => ⟨h.1, List.all_eq_true.1 h.2⟩, fun h => ⟨h.1, List.all_eq_true.2 h.2⟩⟩

def ofText? : List Char → Option Exponent
  | [] => none
  | mark :: rest =>
    if h : (mark = 'e' ∨ mark = 'E') ∧ IsDigits (splitSign rest).2 then
      some ⟨mark, (splitSign rest).1, (splitSign rest).2, h.1, splitSign_fst rest, h.2⟩
    else none

theorem ofText?_text (x : Exponent) : ofText? x.text = some x := by
  obtain ⟨mark, sign, digits, mark_eq, sign_eq, isDigits⟩ := x
  -- Without a sign the first digit must not be taken for one.
  have split : splitSign (sign.toList ++ digits) = (sign, digits) := by
    cases sign with
    | none =>
      obtain ⟨d, rest, first⟩ := List.exists_cons_of_ne_nil isDigits.ne_nil
      have digit : d.isDigit := isDigits.isDigit d (by simp [first])
      have minus : d ≠ '-' := by rintro rfl; revert digit; decide
      have plus : d ≠ '+' := by rintro rfl; revert digit; decide
      simp [first, splitSign, minus, plus]
    | some s => rcases sign_eq s rfl with rfl | rfl <;> rfl
  simp [text, ofText?, split, mark_eq, isDigits]

theorem splitSign_append (text : List Char) :
    (splitSign text).1.toList ++ (splitSign text).2 = text := by
  unfold splitSign
  split <;> rfl

theorem text_of_ofText? {text : List Char} {x : Exponent} (read : ofText? text = some x) :
    x.text = text := by
  unfold ofText? at read
  split at read
  next => cases read
  next mark rest =>
    split at read
    next =>
      cases read
      exact congrArg (mark :: ·) (splitSign_append rest)
    next => cases read

end Exponent

namespace Numeral

/-- The numeral of these parts. Behind the whole digits stand the fraction and the
exponent. -/
def ofParts? (negative : Bool) (whole fraction rest : List Char) : Option Numeral :=
  if h : IsDigits whole ∧ (whole.head? = some '0' → whole = ['0']) ∧ fraction.all Char.isDigit then
    let exponent? : Option (Option Exponent) :=
      if rest = [] then some none else (Exponent.ofText? rest).map some
    exponent?.map fun exponent =>
      { negative, whole, fraction, exponent
        isDigits := h.1
        zero_alone := by
          intro more equal
          have alone := h.2.1 (by simp [equal])
          rw [equal] at alone
          exact (List.cons.inj alone).2
        fraction_isDigit := List.all_eq_true.1 h.2.2 }
  else none

/-- The numeral of a text behind its sign. -/
def ofUnsigned? (negative : Bool) (text : List Char) : Option Numeral :=
  let whole := text.takeWhile Char.isDigit
  match text.dropWhile Char.isDigit with
  | '.' :: rest =>
    let fraction := rest.takeWhile Char.isDigit
    if fraction = [] then none else ofParts? negative whole fraction (rest.dropWhile Char.isDigit)
  | rest => ofParts? negative whole [] rest

def ofText? : List Char → Option Numeral
  | '-' :: rest => ofUnsigned? true rest
  | text => ofUnsigned? false text

theorem takeWhile_isDigit {digits r : List Char} (isDigit : ∀ d ∈ digits, d.isDigit)
    (stop : ∀ c ∈ r.head?, ¬c.isDigit) :
    (digits ++ r).takeWhile Char.isDigit = digits ∧
      (digits ++ r).dropWhile Char.isDigit = r := by
  have front : r.takeWhile Char.isDigit = [] ∧ r.dropWhile Char.isDigit = r := by
    cases r with
    | nil => simp
    | cons c rest => simp [stop c (by simp)]
  rw [List.takeWhile_append_of_pos isDigit, List.dropWhile_append_of_pos isDigit, front.1, front.2]
  simp

def exponentText (n : Numeral) : List Char := (n.exponent.map Exponent.text).getD []

theorem text_eq (n : Numeral) :
    n.text = n.signText ++ (n.whole ++ (n.fractionText ++ n.exponentText)) := by
  unfold text
  split <;> simp_all [mantissaText, exponentText]

theorem head?_exponentText (n : Numeral) :
    ∀ c ∈ n.exponentText.head?, c = 'e' ∨ c = 'E' := by
  cases exponent : n.exponent with
  | none => simp [exponentText, exponent]
  | some x => simpa [exponentText, exponent, Exponent.text] using x.mark_eq

theorem ofParts?_eq (n : Numeral) :
    ofParts? n.negative n.whole n.fraction n.exponentText = some n := by
  have alone : n.whole.head? = some '0' → n.whole = ['0'] := by
    intro zero
    obtain ⟨rest, first⟩ := List.head?_eq_some_iff.1 zero
    rw [first, n.zero_alone rest first]
  rw [ofParts?, dif_pos ⟨n.isDigits, alone, List.all_eq_true.2 n.fraction_isDigit⟩]
  cases exponent : n.exponent with
  | none => cases n; simp_all [exponentText]
  | some x =>
    have text : n.exponentText = x.text := by simp [exponentText, exponent]
    have ne : x.text ≠ [] := by simp [Exponent.text]
    cases n
    simp_all [Exponent.ofText?_text]

theorem ofUnsigned?_eq (n : Numeral) :
    ofUnsigned? n.negative (n.whole ++ (n.fractionText ++ n.exponentText)) = some n := by
  -- The digits end where the exponent begins, because its mark is no digit.
  have marks : ∀ c ∈ n.exponentText.head?, ¬c.isDigit := by
    intro c first
    rcases n.head?_exponentText c first with rfl | rfl <;> decide
  cases fraction : n.fraction with
  | nil =>
    obtain ⟨whole, rest⟩ := takeWhile_isDigit n.isDigits.isDigit marks
    have point : ∀ rest, n.exponentText ≠ '.' :: rest := by
      intro rest equal
      have := n.head?_exponentText '.' (by simp [equal])
      revert this
      decide
    simp only [ofUnsigned?, fractionText, fraction, if_pos, List.nil_append, whole, rest]
    have parts := n.ofParts?_eq
    rwa [fraction] at parts
  | cons d ds =>
    obtain ⟨whole, rest⟩ := takeWhile_isDigit (r := '.' :: (n.fraction ++ n.exponentText))
      n.isDigits.isDigit (by simp)
    obtain ⟨digits, exponent⟩ := takeWhile_isDigit n.fraction_isDigit marks
    have ne : n.fraction ≠ [] := by simp [fraction]
    simp only [ofUnsigned?, fractionText, if_neg ne, List.cons_append, whole, rest, digits, exponent]
    exact n.ofParts?_eq

/-- Every numeral is given back by its text. -/
theorem ofText?_text (n : Numeral) : ofText? n.text = some n := by
  obtain ⟨d, rest, first⟩ := List.exists_cons_of_ne_nil n.isDigits.ne_nil
  have digit : d.isDigit := n.isDigits.isDigit d (by simp [first])
  have minus : d ≠ '-' := by rintro rfl; revert digit; decide
  have unsigned := n.ofUnsigned?_eq
  rw [text_eq]
  cases sign : n.negative with
  | false =>
    rw [sign] at unsigned
    simp only [signText, sign, first, List.cons_append] at unsigned ⊢
    unfold ofText?
    split
    next equal => exact absurd (List.cons.inj equal).1 minus
    next => exact unsigned
  | true =>
    rw [sign] at unsigned
    simpa [signText, sign, ofText?] using unsigned

theorem of_ofParts? {negative : Bool} {whole fraction rest : List Char} {n : Numeral}
    (read : ofParts? negative whole fraction rest = some n) :
    n.negative = negative ∧ n.whole = whole ∧ n.fraction = fraction ∧ n.exponentText = rest := by
  unfold ofParts? at read
  split at read
  next =>
    obtain ⟨exponent, exponent?, rfl⟩ := Option.map_eq_some_iff.1 read
    refine ⟨rfl, rfl, rfl, ?_⟩
    split at exponent?
    next none =>
      cases exponent?
      exact none.symm
    next =>
      obtain ⟨x, spelled, rfl⟩ := Option.map_eq_some_iff.1 exponent?
      exact Exponent.text_of_ofText? spelled
  next => cases read

theorem text_of_ofUnsigned? {negative : Bool} {text : List Char} {n : Numeral}
    (read : ofUnsigned? negative text = some n) :
    n.negative = negative ∧ n.whole ++ (n.fractionText ++ n.exponentText) = text := by
  have whole := List.takeWhile_append_dropWhile (p := Char.isDigit) (l := text)
  unfold ofUnsigned? at read
  split at read
  next rest point =>
    dsimp only at read
    split at read
    next => cases read
    next present =>
      obtain ⟨sign, digits, fraction, exponent⟩ := of_ofParts? read
      refine ⟨sign, ?_⟩
      rw [digits, fractionText, fraction, if_neg present, exponent, List.cons_append,
        List.takeWhile_append_dropWhile, ← point, whole]
  next =>
    obtain ⟨sign, digits, fraction, exponent⟩ := of_ofParts? read
    refine ⟨sign, ?_⟩
    rw [digits, fractionText, fraction, if_pos rfl, exponent, List.nil_append, whole]

/-- Only the text of a numeral is taken apart. -/
theorem text_of_ofText? {text : List Char} {n : Numeral} (read : ofText? text = some n) :
    n.text = text := by
  rw [text_eq]
  unfold ofText? at read
  split at read
  next =>
    obtain ⟨sign, unsigned⟩ := text_of_ofUnsigned? read
    rw [unsigned, signText, sign]
    rfl
  next =>
    obtain ⟨sign, unsigned⟩ := text_of_ofUnsigned? read
    rw [unsigned, signText, sign]
    rfl

end Numeral

/-! ## Characters of numerals -/

/-- A character that numerals are made of. -/
def IsNumberChar (c : Char) : Prop := c.isDigit ∨ c ∈ ['-', '+', '.', 'e', 'E']

instance (c : Char) : Decidable (IsNumberChar c) := inferInstanceAs (Decidable (_ ∨ _))

theorem IsNumberChar.ascii {c : Char} (char : IsNumberChar c) : c.toNat < 128 := by
  rcases char with digit | mark
  · simp only [Char.isDigit, Bool.and_eq_true, decide_eq_true_eq] at digit
    have below : c.val.toNat ≤ '9'.val.toNat := digit.2
    change c.toNat ≤ 57 at below
    omega
  · simp only [List.mem_cons, List.not_mem_nil, or_false] at mark
    rcases mark with rfl | rfl | rfl | rfl | rfl <;> decide

theorem Exponent.isNumberChar (x : Exponent) : ∀ c ∈ x.text, IsNumberChar c := by
  intro c member
  simp only [Exponent.text, List.mem_cons, List.mem_append, Option.mem_toList] at member
  rcases member with rfl | sign | digit
  · exact .inr (by rcases x.mark_eq with same | same <;> simp [same])
  · exact .inr (by rcases x.sign_eq c sign with rfl | rfl <;> simp)
  · exact .inl (x.isDigits.isDigit c digit)

theorem Numeral.isNumberChar (n : Numeral) : ∀ c ∈ n.text, IsNumberChar c := by
  intro c member
  rw [n.text_eq] at member
  simp only [List.mem_append] at member
  rcases member with sign | whole | fraction | exponent
  · unfold signText at sign
    exact .inr (by split at sign <;> simp_all)
  · exact .inl (n.isDigits.isDigit c whole)
  · unfold fractionText at fraction
    split at fraction
    next => cases fraction
    next =>
      rcases List.mem_cons.1 fraction with rfl | digit
      · exact .inr (by simp)
      · exact .inl (n.fraction_isDigit c digit)
  · cases last : n.exponent with
    | none => simp [exponentText, last] at exponent
    | some x => exact x.isNumberChar c (by simpa [exponentText, last] using exponent)

/-! ## Reading characters of a number -/

namespace Number

/-- A literal under way behind more characters, all of which belong to it. -/
def feed? (scan : Scan) : List Char → Option Scan
  | [] => some scan
  | c :: rest =>
    match scan.phase.move c with
    | .extend written next => feed? (scan.extend written next) rest
    | .leave | .refuse _ => none

/-- The literal under way behind a text that is the beginning of a number. -/
def scan? : List Char → Option Scan
  | [] => none
  | c :: rest => (Scan.begin? c).bind fun scan => feed? scan rest

theorem feed?_cons {phase next : Phase} {c : Char} {w : List Char}
    (moved : phase.move c = .extend w next) (written rest : List Char) :
    feed? ⟨written, phase⟩ (c :: rest) = feed? ⟨w.reverse ++ written, next⟩ rest := by
  simp only [feed?, moved, Scan.extend]

theorem feed?_append (scan : Scan) (a b : List Char) :
    feed? scan (a ++ b) = (feed? scan a).bind fun scan => feed? scan b := by
  induction a generalizing scan with
  | nil => rfl
  | cons c rest ih =>
    simp only [List.cons_append, feed?]
    split
    · exact ih _
    · rfl
    · rfl

theorem scan?_append {a : List Char} {scan : Scan} (read : scan? a = some scan) (b : List Char) :
    scan? (a ++ b) = feed? scan b := by
  cases a with
  | nil => cases read
  | cons c rest =>
    obtain ⟨first, begun, fed⟩ := Option.bind_eq_some_iff.1 read
    simp only [List.cons_append, scan?, begun, Option.bind_some, feed?_append, fed]

theorem isNumberChar_of_move {phase next : Phase} {c : Char} {w : List Char}
    (moved : phase.move c = .extend w next) : IsNumberChar c := by
  have zero : c = '0' → c.isDigit := by rintro rfl; decide
  unfold IsNumberChar
  cases phase <;> simp only [Phase.move, afterInteger] at moved <;> grind

theorem isNumberChar_of_begin? {c : Char} {scan : Scan} (begun : Scan.begin? c = some scan) :
    IsNumberChar c := by
  obtain ⟨phase, first, -⟩ := Option.map_eq_some_iff.1 begun
  have zero : c = '0' → c.isDigit := by rintro rfl; decide
  unfold IsNumberChar
  unfold begin? at first
  grind

/-! ## Only numerals are completed -/

/-- The last part of a numeral without exponent. -/
def EndsIn (n : Numeral) : Phase → Prop
  | .zero => n.whole = ['0'] ∧ n.fraction = []
  | .integer => n.whole.head? ≠ some '0' ∧ n.fraction = []
  | .fraction => n.fraction ≠ []
  | _ => False

/-- `Reads phase spelled written`: the phase that is reached behind the text `spelled`
when `written` has been written for it. -/
inductive Reads : Phase → List Char → List Char → Prop
  | minus : Reads .minus ['-'] ['-']
  | plain {n : Numeral} {phase : Phase} (plain : n.exponent = none) (ends : EndsIn n phase) :
      Reads phase n.text n.text
  | point {n : Numeral} (plain : n.exponent = none) (whole : n.fraction = []) :
      Reads .point (n.text ++ ['.']) (n.text ++ ['.'])
  | mark {n : Numeral} {m : Char} (plain : n.exponent = none) (mark : m = 'e' ∨ m = 'E') :
      Reads .mark (n.text ++ [m]) (n.text ++ ['e'])
  | sign {n : Numeral} {m s : Char} (plain : n.exponent = none) (mark : m = 'e' ∨ m = 'E')
      (sign : s = '+' ∨ s = '-') : Reads .sign (n.text ++ [m, s]) (n.text ++ ['e', s])
  | exponent {n : Numeral} {x : Exponent} (last : n.exponent = some x) :
      Reads .exponent n.text n.normal.text

namespace Reads

theorem firstDigit {c : Char} (digit : c.isDigit) (negative : Bool) :
    Reads (if c = '0' then .zero else .integer) ((if negative then ['-'] else []) ++ [c])
      ((if negative then ['-'] else []) ++ [c]) := by
  let n : Numeral :=
    { negative, whole := [c], fraction := [], exponent := none
      isDigits := ⟨by simp, by simpa using digit⟩
      zero_alone := by simp
      fraction_isDigit := by simp }
  have text : n.text = (if negative then ['-'] else []) ++ [c] := by
    simp [n, Numeral.text, Numeral.mantissaText, Numeral.signText, Numeral.fractionText]
  rw [← text]
  refine .plain rfl ?_
  by_cases zero : c = '0' <;> simp [zero, EndsIn, n]

theorem wholeDigit {n : Numeral} (plain : n.exponent = none) (ends : EndsIn n .integer) {c : Char}
    (digit : c.isDigit) : Reads .integer (n.text ++ [c]) (n.text ++ [c]) := by
  obtain ⟨nonzero, whole⟩ := ends
  obtain ⟨d, rest, first⟩ := List.exists_cons_of_ne_nil n.isDigits.ne_nil
  have ne : d ≠ '0' := by simpa [first] using nonzero
  let longer : Numeral :=
    { n with
      whole := n.whole ++ [c]
      isDigits := ⟨by simp, by simpa [or_imp, forall_and] using ⟨n.isDigits.isDigit, digit⟩⟩
      zero_alone := by
        intro more equal
        rw [first, List.cons_append, List.cons.injEq] at equal
        exact absurd equal.1 ne }
  have text : longer.text = n.text ++ [c] := by
    simp [longer, Numeral.text, Numeral.mantissaText, Numeral.signText, Numeral.fractionText,
      whole, plain]
  rw [← text]
  exact .plain plain ⟨by simpa [longer, first] using ne, whole⟩

theorem fractionDigit {n : Numeral} (plain : n.exponent = none) {c : Char} (digit : c.isDigit) :
    let point := if n.fraction = [] then ['.'] else []
    Reads .fraction (n.text ++ point ++ [c]) (n.text ++ point ++ [c]) := by
  let longer : Numeral :=
    { n with
      fraction := n.fraction ++ [c]
      fraction_isDigit := by simpa [or_imp, forall_and] using ⟨n.fraction_isDigit, digit⟩ }
  have text : longer.text = n.text ++ (if n.fraction = [] then ['.'] else []) ++ [c] := by
    by_cases whole : n.fraction = [] <;>
      simp [longer, Numeral.text, Numeral.mantissaText, Numeral.signText, Numeral.fractionText,
        whole, plain]
  intro point
  rw [← text]
  exact .plain plain (by simp [EndsIn, longer])

theorem firstExponentDigit {n : Numeral} (plain : n.exponent = none) {m c : Char}
    (mark : m = 'e' ∨ m = 'E') (sign : Option Char) (signs : ∀ s, sign = some s → s = '+' ∨ s = '-')
    (digit : c.isDigit) :
    Reads .exponent (n.text ++ m :: (sign.toList ++ [c]))
      (n.text ++ ['e', sign.getD '+', c]) := by
  rw [Numeral.text_of_exponent_eq_none plain]
  exact .exponent (n := n.withExponent ⟨m, sign, [c], mark, signs, by simp, by simpa using digit⟩) rfl

theorem exponentDigit {n : Numeral} {x : Exponent} (last : n.exponent = some x) {c : Char}
    (digit : c.isDigit) : Reads .exponent (n.text ++ [c]) (n.normal.text ++ [c]) := by
  let longer : Exponent :=
    { x with
      digits := x.digits ++ [c]
      isDigits := ⟨by simp, by simpa [or_imp, forall_and] using ⟨x.isDigits.isDigit, digit⟩⟩ }
  have spelled : n.text ++ [c] = (n.withExponent longer).text := by
    rw [Numeral.text_of_exponent_eq_some last, Numeral.text_withExponent]
    simp [Exponent.text, longer]
  have written : n.normal.text ++ [c] = (n.withExponent longer).normal.text := by
    rw [Numeral.text_normal_of_exponent_eq_some last, Numeral.normal_withExponent,
      Numeral.text_withExponent]
    simp [Exponent.text, Exponent.normal, longer]
  rw [spelled, written]
  exact .exponent rfl

theorem begin {c : Char} {scan : Scan} (begun : Scan.begin? c = some scan) :
    Reads scan.phase [c] scan.written.reverse := by
  obtain ⟨phase, first, rfl⟩ := Option.map_eq_some_iff.1 begun
  unfold begin? at first
  split at first
  next minus => cases first; subst minus; exact .minus
  next =>
    split at first
    next zero => cases first; subst zero; exact firstDigit (c := '0') rfl false
    next nonzero =>
      split at first
      next digit => cases first; simpa [nonzero] using firstDigit digit false
      next => cases first

/-- What may follow the digits of a numeral without exponent. -/
theorem leaveMantissa {n : Numeral} (plain : n.exponent = none) {c : Char} {w : List Char}
    {next : Phase} (moved : afterInteger c = .extend w next) (whole : n.fraction = []) :
    Reads next (n.text ++ [c]) (n.text ++ w) := by
  unfold afterInteger at moved
  split at moved
  next point => cases moved; subst point; exact .point plain whole
  next =>
    split at moved
    next mark => cases moved; exact .mark plain mark
    next => cases moved

/-- One more character behind a numeral without exponent. -/
theorem step_plain {n : Numeral} {phase next : Phase} {w : List Char} {c : Char}
    (plain : n.exponent = none) (ends : EndsIn n phase) (moved : phase.move c = .extend w next) :
    Reads next (n.text ++ [c]) (n.text ++ w) := by
  cases phase with
  | zero =>
    simp only [Phase.move] at moved
    split at moved
    next => cases moved
    next => exact leaveMantissa plain moved ends.2
  | integer =>
    simp only [Phase.move] at moved
    split at moved
    next digit => cases moved; exact wholeDigit plain ends digit
    next => exact leaveMantissa plain moved ends.2
  | fraction =>
    simp only [Phase.move] at moved
    split at moved
    next digit =>
      cases moved
      simpa [show n.fraction ≠ [] from ends] using fractionDigit plain digit
    next =>
      split at moved
      next mark => cases moved; exact .mark plain mark
      next => cases moved
  | minus | point | mark | sign | exponent => exact ends.elim

/-- One more character that belongs to a number. -/
theorem step {phase next : Phase} {spelled written w : List Char} {c : Char}
    (reads : Reads phase spelled written) (moved : phase.move c = .extend w next) :
    Reads next (spelled ++ [c]) (written ++ w) := by
  -- A phase allows at most two or three kinds of characters, in the order in which `move` asks.
  cases reads with
  | minus =>
    simp only [Phase.move] at moved
    split at moved
    next zero => cases moved; subst zero; exact firstDigit (c := '0') rfl true
    next nonzero =>
      split at moved
      next digit => cases moved; simpa [nonzero] using firstDigit digit true
      next => cases moved
  | plain plain ends => exact step_plain plain ends moved
  | @point n plain whole =>
    simp only [Phase.move] at moved
    split at moved
    next digit => cases moved; simpa [whole] using fractionDigit plain digit
    next => cases moved
  | @mark n m plain mark =>
    simp only [Phase.move] at moved
    split at moved
    next sign => cases moved; simpa using Reads.sign plain mark sign
    next =>
      split at moved
      next digit =>
        cases moved
        simpa using firstExponentDigit plain mark none (by simp) digit
      next => cases moved
  | @sign n m s plain mark sign =>
    simp only [Phase.move] at moved
    split at moved
    next digit =>
      cases moved
      simpa using firstExponentDigit plain mark (some s) (by simpa using sign) digit
    next => cases moved
  | @exponent n x last =>
    simp only [Phase.move] at moved
    split at moved
    next digit => cases moved; exact exponentDigit last digit
    next => cases moved

theorem feed {scan scan' : Scan} {spelled more : List Char}
    (reads : Reads scan.phase spelled scan.written.reverse) (fed : feed? scan more = some scan') :
    Reads scan'.phase (spelled ++ more) scan'.written.reverse := by
  induction more generalizing scan spelled with
  | nil =>
    cases fed
    simpa using reads
  | cons c rest ih =>
    simp only [feed?] at fed
    split at fed
    next written next moved =>
      have stepped : Reads next (spelled ++ [c]) (scan.extend written next).written.reverse := by
        simpa [Scan.extend] using reads.step moved
      simpa using ih stepped fed
    next => cases fed
    next => cases fed

end Reads

/-- A text that is read as a whole number is that of a numeral, and what is written for
it is the text with its exponent spelled anew. -/
theorem exists_numeral_of_scan? {spelled : List Char} {scan : Scan}
    (read : scan? spelled = some scan) (complete : scan.phase.isComplete) :
    ∃ n : Numeral, spelled = n.text ∧ scan.text = String.ofList n.normal.text := by
  have reads : Reads scan.phase spelled scan.written.reverse := by
    cases spelled with
    | nil => cases read
    | cons c rest =>
      obtain ⟨first, begun, fed⟩ := Option.bind_eq_some_iff.1 read
      exact (Reads.begin begun).feed fed
  generalize phase : scan.phase = phase at reads complete
  generalize written : scan.written.reverse = written at reads
  simp only [Scan.text, written]
  -- In any other phase something is missing behind the text.
  cases reads with
  | @plain n _ plain _ => exact ⟨n, rfl, by rw [Numeral.normal_of_exponent_eq_none plain]⟩
  | @exponent n _ _ => exact ⟨n, rfl, rfl⟩
  | minus | point _ _ | mark _ _ | sign _ _ _ => cases complete

/-! ## All numerals are read -/

/-- Digits are written as they are where each of them keeps the phase. -/
theorem feed?_digits (phase : Phase) (keeps : ∀ c : Char, c.isDigit → phase.move c = .extend [c] phase)
    {digits : List Char} (isDigit : ∀ d ∈ digits, d.isDigit) (written : List Char) :
    feed? ⟨written, phase⟩ digits = some ⟨digits.reverse ++ written, phase⟩ := by
  induction digits generalizing written with
  | nil => rfl
  | cons d rest ih =>
    rw [feed?_cons (keeps d (isDigit d (by simp))),
      ih (fun c member => isDigit c (by simp [member]))]
    simp

theorem ne_of_isDigit {c : Char} (digit : c.isDigit) :
    c ≠ '-' ∧ c ≠ '+' ∧ c ≠ '.' ∧ c ≠ 'e' ∧ c ≠ 'E' := by
  refine ⟨?_, ?_, ?_, ?_, ?_⟩ <;> (rintro rfl; revert digit; decide)

/-- The phase behind the digits before the point. -/
def wholePhase (whole : List Char) : Phase := if whole = ['0'] then .zero else .integer

theorem scan?_whole (n : Numeral) :
    scan? (n.signText ++ n.whole) =
      some ⟨(n.signText ++ n.whole).reverse, wholePhase n.whole⟩ := by
  obtain ⟨d, rest, first⟩ := List.exists_cons_of_ne_nil n.isDigits.ne_nil
  have digit : d.isDigit := n.isDigits.isDigit d (by simp [first])
  have digits : ∀ c ∈ rest, c.isDigit := fun c member => n.isDigits.isDigit c (by simp [first, member])
  have others := ne_of_isDigit digit
  have more := fun written => feed?_digits .integer (by simp +contextual [Phase.move]) digits written
  rw [first]
  by_cases zero : d = '0'
  · have alone : rest = [] := n.zero_alone rest (by rw [first, zero])
    subst zero alone
    cases sign : n.negative <;>
      simp [Numeral.signText, sign, scan?, Scan.begin?, begin?, feed?, Phase.move, Scan.extend,
        wholePhase]
  · cases sign : n.negative <;>
      simp [Numeral.signText, sign, scan?, Scan.begin?, begin?, feed?, Phase.move, Scan.extend,
        wholePhase, zero, digit, others, more]

theorem scan?_mantissa (n : Numeral) :
    ∃ phase, (phase = .zero ∨ phase = .integer ∨ phase = .fraction) ∧
      scan? n.mantissaText = some ⟨n.mantissaText.reverse, phase⟩ := by
  cases fraction : n.fraction with
  | nil =>
    refine ⟨wholePhase n.whole, ?_, ?_⟩
    · unfold wholePhase
      split <;> simp
    · simpa [Numeral.mantissaText, Numeral.fractionText, fraction] using scan?_whole n
  | cons d rest =>
    have digit : d.isDigit := n.fraction_isDigit d (by simp [fraction])
    have digits : ∀ c ∈ rest, c.isDigit := fun c member =>
      n.fraction_isDigit c (by simp [fraction, member])
    have more := fun written =>
      feed?_digits .fraction (by simp +contextual [Phase.move]) digits written
    -- Behind a zero as behind any other digits a point may follow.
    have point : (wholePhase n.whole).move '.' = .extend ['.'] .point := by
      unfold wholePhase
      split <;> decide
    refine ⟨.fraction, by simp, ?_⟩
    have first : Phase.point.move d = .extend [d] .fraction := by simp [Phase.move, digit]
    rw [Numeral.mantissaText, scan?_append (scan?_whole n), Numeral.fractionText, fraction,
      if_neg (by simp), feed?_cons point, feed?_cons first, more]
    simp

theorem feed?_exponent (x : Exponent) {phase : Phase}
    (mantissa : phase = .zero ∨ phase = .integer ∨ phase = .fraction) (written : List Char) :
    feed? ⟨written, phase⟩ x.text = some ⟨x.normal.text.reverse ++ written, .exponent⟩ := by
  obtain ⟨mark, sign, digits, mark_eq, sign_eq, isDigits⟩ := x
  obtain ⟨d, rest, first⟩ := List.exists_cons_of_ne_nil isDigits.ne_nil
  subst first
  have digit : d.isDigit := isDigits.isDigit d (by simp)
  have others := ne_of_isDigit digit
  have more := fun written =>
    feed?_digits .exponent (by simp +contextual [Phase.move])
      (fun c member => isDigits.isDigit c (List.mem_cons_of_mem d member)) written
  have marked : phase.move mark = .extend ['e'] .mark := by
    rcases mantissa with rfl | rfl | rfl <;> rcases mark_eq with rfl | rfl <;> decide
  rw [Exponent.text, feed?_cons marked]
  cases sign with
  | none =>
    -- The sign that is missing is written.
    have first : Phase.mark.move d = .extend ['+', d] .exponent := by simp [Phase.move, digit, others]
    rw [Option.toList_none, List.nil_append, feed?_cons first, more]
    simp [Exponent.text, Exponent.normal]
  | some s =>
    have signed : Phase.mark.move s = .extend [s] .sign := by simp [Phase.move, sign_eq s rfl]
    have first : Phase.sign.move d = .extend [d] .exponent := by simp [Phase.move, digit]
    rw [Option.toList_some, List.singleton_append, feed?_cons signed, feed?_cons first, more]
    simp [Exponent.text, Exponent.normal]

/-- Every numeral is read, and its exponent is spelled anew. -/
theorem scan?_text (n : Numeral) :
    ∃ scan, scan? n.text = some scan ∧ scan.phase.isComplete ∧
      scan.text = String.ofList n.normal.text := by
  obtain ⟨phase, mantissa, read⟩ := scan?_mantissa n
  cases exponent : n.exponent with
  | none =>
    refine ⟨_, by rw [n.text_of_exponent_eq_none exponent, read], ?_, ?_⟩
    · rcases mantissa with rfl | rfl | rfl <;> rfl
    · rw [Numeral.normal_of_exponent_eq_none exponent, Numeral.text_of_exponent_eq_none exponent]
      simp [Scan.text]
  | some x =>
    refine ⟨⟨x.normal.text.reverse ++ n.mantissaText.reverse, .exponent⟩, ?_, rfl, ?_⟩
    · rw [Numeral.text_of_exponent_eq_some exponent, scan?_append read, feed?_exponent x mantissa]
    · rw [Numeral.text_normal_of_exponent_eq_some exponent]
      simp [Scan.text]

end Number

end VectorFetch.Json

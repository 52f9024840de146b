import Mathlib.Algebra.Group.Nat.Defs
import Mathlib.Data.List.Forall2
import VectorFetch.Proofs.Text.Digits
import VectorFetch.Toml.Document

/-!
# Reading what is written line by line

* `scalarValue?_toDigits`, `scalarValue?_boolean`: numbers and truth values up to the end of a line.
* `Line`: a key and a value on a line of its own, and `Line.IsReadable` if both can be read.
* `parse?_section`: a header and lines below it are read as one table with these values.
-/

namespace VectorFetch.Toml

/-! ## Numbers -/

/-- A text that begins with digits up to the end of a line. -/
def StartsDigits (s : List Char) : Prop :=
  ∃ digits rest, (∀ c ∈ digits, isDecimal c) ∧ s = digits ++ '\n' :: rest

theorem fixedDigits?_of_startsDigits {n : Nat} {s digits rest : List Char} (starts : StartsDigits s)
    (read : fixedDigits? n s = some (digits, rest)) : StartsDigits rest := by
  induction n generalizing s digits with
  | zero =>
    cases read
    exact starts
  | succ n ih =>
    obtain ⟨front, behind, decimal, rfl⟩ := starts
    cases front with
    | nil => simp [fixedDigits?, isDecimal] at read
    | cons c front =>
      rw [List.forall_mem_cons] at decimal
      simp only [List.cons_append, fixedDigits?, decimal.1, if_true, Option.map_eq_some_iff] at read
      obtain ⟨⟨more, left⟩, read, same⟩ := read
      cases same
      exact ih ⟨front, behind, decimal.2, rfl⟩ read

theorem skip?_of_startsDigits {c : Char} {s : List Char} (starts : StartsDigits s)
    (notDecimal : isDecimal c = false) (notEnd : c ≠ '\n') : skip? c s = none := by
  obtain ⟨digits, rest, decimal, rfl⟩ := starts
  cases digits with
  | nil => simp [skip?, notEnd.symm]
  | cons d digits =>
    have other : d ≠ c := by
      rintro rfl
      rw [decimal d (.head _)] at notDecimal
      cases notDecimal
    simp [skip?, other]

/-- Digits up to the end of a line are no date and no time. -/
theorem moment?_of_startsDigits {s : List Char} (starts : StartsDigits s) : moment? s = none := by
  -- A date needs a dash behind its year, and a time needs a colon behind its hour.
  have date : date? s = none := by
    cases year : fixedDigits? 4 s with
    | none => simp [date?, year]
    | some read =>
      obtain ⟨digits, rest⟩ := read
      have dash := skip?_of_startsDigits (fixedDigits?_of_startsDigits starts year)
        (c := '-') (by decide) (by decide)
      simp [date?, year, dash]
  have time : time? s = none := by
    cases hour : twoDigits? 0 23 s with
    | none => simp [time?, hour]
    | some read =>
      obtain ⟨n, rest⟩ := read
      have behind : StartsDigits rest := by
        unfold twoDigits? at hour
        split at hour
        next => cases hour
        next digits left two =>
          simp only [Option.ite_none_right_eq_some, Option.some.injEq, Prod.mk.injEq] at hour
          exact hour.2.2 ▸ fixedDigits?_of_startsDigits starts two
      have colon := skip?_of_startsDigits behind (c := ':') (by decide) (by decide)
      simp [time?, hour, colon]
  simp [moment?, date, time]

theorem moreDigits?_of_decimal {digits : List Char} (decimal : ∀ c ∈ digits, isDecimal c)
    (rest : List Char) :
    moreDigits? isDecimal (digits ++ '\n' :: rest) = some (digits, '\n' :: rest) := by
  induction digits with
  | nil =>
    rw [List.nil_append, moreDigits?.eq_def]
    simp [isDecimal]
  | cons c digits ih =>
    rw [List.forall_mem_cons] at decimal
    rw [List.cons_append, moreDigits?.eq_def]
    simp [decimal.1, ih decimal.2]

theorem isDecimal_of_mem_toDigits {c : Char} {n : Nat} (member : c ∈ Nat.toDigits 10 n) :
    isDecimal c := isDigit_of_mem_toDigits member

theorem digitsValue_toDigits (n : Nat) : digitsValue 10 (Nat.toDigits 10 n) = n := by
  have value : ∀ digits : List Char, (∀ c ∈ digits, isDecimal c) → ∀ init,
      digits.foldl (fun n c => 10 * n + digitValue c) init = Nat.ofDigitChars 10 digits init := by
    intro digits decimal
    induction digits with
    | nil => exact fun _ => Nat.ofDigitChars_nil.symm
    | cons c digits ih =>
      intro init
      rw [List.forall_mem_cons] at decimal
      have small : c ≤ '9' := of_decide_eq_true (Bool.and_eq_true_iff.1 decimal.1).2
      rw [List.foldl_cons, ih decimal.2, Nat.ofDigitChars_cons, digitValue, if_pos small]
      rfl
  rw [digitsValue, value _ fun c => isDecimal_of_mem_toDigits, Nat.ofDigitChars_ten_toDigits]

theorem digits?_of_decimal {c : Char} {digits : List Char} (decimal : ∀ d ∈ c :: digits, isDecimal d)
    (rest : List Char) :
    digits? isDecimal (c :: digits ++ '\n' :: rest) = some (c :: digits, '\n' :: rest) := by
  rw [List.forall_mem_cons] at decimal
  simp [digits?, decimal.1, moreDigits?_of_decimal decimal.2]

theorem decimalDigits?_toDigits (n : Nat) (rest : List Char) :
    decimalDigits? (Nat.toDigits 10 n ++ '\n' :: rest) =
      some (Nat.toDigits 10 n, '\n' :: rest) := by
  have decimal : ∀ c ∈ Nat.toDigits 10 n, isDecimal c := fun c => isDecimal_of_mem_toDigits
  obtain ⟨c, digits, spelled⟩ := List.exists_cons_of_ne_nil (@Nat.toDigits_ne_nil n 10)
  by_cases zero : c = '0'
  · subst zero
    obtain rfl := eq_zero_of_head?_toDigits (n := n) (by rw [spelled]; rfl)
    rfl
  · rw [spelled] at decimal ⊢
    have read := digits?_of_decimal decimal rest
    rw [List.cons_append] at read ⊢
    unfold decimalDigits?
    split
    next same =>
      cases same
      exact absurd rfl zero
    next => exact read

theorem integer?_of_lt {n : Nat} (small : n < 2 ^ 63) :
    integer? n = some (.integer (Int64.ofInt n)) := by
  have least : Int64.minValue.toInt = -2 ^ 63 := rfl
  have most : Int64.maxValue.toInt = 2 ^ 63 - 1 := rfl
  rw [integer?, least, most, if_pos (by omega)]

theorem startsRadix_of_ne {c : Char} (notZero : c ≠ '0') (s : List Char) :
    startsRadix (c :: s) = false := by
  unfold startsRadix
  split
  next same =>
    cases same
    exact absurd rfl notZero
  next => rfl

theorem sign_of_isDecimal {c : Char} (digit : isDecimal c) (s : List Char) :
    sign (c :: s) = (false, c :: s) := by
  unfold sign
  split
  next same =>
    cases same
    cases digit
  next same =>
    cases same
    cases digit
  next => rfl

theorem number?_toDigits {n : Nat} (small : n < 2 ^ 63) (rest : List Char) :
    number? (Nat.toDigits 10 n ++ '\n' :: rest) =
      some (.integer (Int64.ofInt n), '\n' :: rest) := by
  have decimal : ∀ c ∈ Nat.toDigits 10 n, isDecimal c := fun c => isDecimal_of_mem_toDigits
  have read : unsigned? false (Nat.toDigits 10 n ++ '\n' :: rest) =
      some (.integer (Int64.ofInt n), '\n' :: rest) := by
    simp [unsigned?, decimalDigits?_toDigits, numberFrom?, digitsValue_toDigits, integer?_of_lt small]
  obtain ⟨c, digits, spelled⟩ := List.exists_cons_of_ne_nil (@Nat.toDigits_ne_nil n 10)
  rw [spelled, List.cons_append] at read ⊢
  have plain : startsRadix (c :: (digits ++ '\n' :: rest)) = false := by
    by_cases zero : c = '0'
    · -- Only zero begins so, and then the line ends behind it.
      subst zero
      obtain rfl := eq_zero_of_head?_toDigits (n := n) (by rw [spelled]; rfl)
      cases spelled
      rfl
    · exact startsRadix_of_ne zero _
  rw [number?, plain, sign_of_isDecimal (decimal c (by rw [spelled]; exact .head _))]
  exact read

theorem scalarValue?_toDigits {n : Nat} (small : n < 2 ^ 63) (rest : List Char) :
    scalarValue? (Nat.toDigits 10 n ++ '\n' :: rest) =
      some (.integer (Int64.ofInt n), '\n' :: rest) := by
  have decimal : ∀ c ∈ Nat.toDigits 10 n, isDecimal c := fun c => isDecimal_of_mem_toDigits
  have moment := moment?_of_startsDigits ⟨_, rest, decimal, rfl⟩
  have number := number?_toDigits small rest
  obtain ⟨c, digits, spelled⟩ := List.exists_cons_of_ne_nil (@Nat.toDigits_ne_nil n 10)
  rw [spelled] at decimal moment number ⊢
  rw [List.cons_append] at moment number ⊢
  have digit := decimal c (.head _)
  have notQuote : c ≠ '"' := by
    rintro rfl
    cases digit
  have notApostrophe : c ≠ '\'' := by
    rintro rfl
    cases digit
  simp [scalarValue?, notQuote, notApostrophe, digit, moment, number]

theorem scalarValue?_boolean (b : Bool) (rest : List Char) :
    scalarValue? ((toString b).toList ++ '\n' :: rest) = some (.boolean b, '\n' :: rest) := by
  cases b with
  | false => rfl
  | true => rfl

/-! ## Lines -/

/-- A key without quotes, the text of a value, and the value. -/
structure Line where
  key : String
  text : String
  value : Scalar

namespace Line

/-- The characters of a line and its end. -/
def chars (line : Line) : List Char :=
  line.key.toList ++ ' ' :: '=' :: ' ' :: line.text.toList ++ ['\n']

/-- A line whose key and value are read in full. -/
structure IsReadable (line : Line) : Prop where
  filled : line.key.toList ≠ []
  bare : ∀ c ∈ line.key.toList, isBare c
  reads : ∀ rest,
    scalarValue? (line.text.toList ++ '\n' :: rest) = some (line.value, '\n' :: rest)

end Line

/-- What an entry has to say if it was read from a line. -/
def Line.Sets (line : Line) (entry : Name × Item) : Prop :=
  ∃ span place, entry = (⟨line.key, span⟩, .scalar place line.value)

theorem skipBlanks_of_not_isBlank {c : Char} (filled : isBlank c = false) (s : List Char) :
    skipBlanks (c :: s) = c :: s := by
  simp [skipBlanks, filled]

theorem isBlank_of_isBare {c : Char} (bare : isBare c) : isBlank c = false := by
  rw [Bool.eq_false_iff]
  intro blank
  rcases Bool.or_eq_true_iff.1 blank with space | tab
  · rw [of_decide_eq_true space] at bare
    cases bare
  · rw [of_decide_eq_true tab] at bare
    cases bare

theorem keyPath?_of_bare {word : List Char} (filled : word ≠ []) (bare : ∀ c ∈ word, isBare c)
    (d : Char) (rest : List Char) (ends : isBare d = false)
    (single : (skipBlanks (d :: rest)).head? ≠ some '.') :
    ∃ span, keyPath? (word ++ d :: rest) =
      some (⟨[], ⟨String.ofList word, span⟩⟩, skipBlanks (d :: rest)) := by
  have taken : (word ++ d :: rest).takeWhile isBare = word := by
    rw [List.takeWhile_append_of_pos bare, List.takeWhile_cons_of_neg (by simp [ends]),
      List.append_nil]
  have left : (word ++ d :: rest).dropWhile isBare = d :: rest := by
    rw [List.dropWhile_append_of_pos bare, List.dropWhile_cons_of_neg (by simp [ends])]
  obtain ⟨c, more, rfl⟩ := List.exists_cons_of_ne_nil filled
  have start := skipBlanks_of_not_isBlank (isBlank_of_isBare (bare c (.head _))) (more ++ d :: rest)
  have name : name? (c :: more ++ d :: rest) = some (⟨String.ofList (c :: more),
      .between (c :: more ++ d :: rest) (d :: rest)⟩, d :: rest) := by
    rw [name?, taken, left]
  refine ⟨.between (c :: more ++ d :: rest) (d :: rest), ?_⟩
  rw [List.cons_append] at name ⊢
  rw [keyPath?, depthLimit, keysFrom?, start, name]
  dsimp only
  split
  -- A dot would have gone on with the path.
  next dot =>
    rw [dot] at single
    exact absurd rfl single
  next => rfl

theorem value?_of_scalarValue? {s rest : List Char} {value : Scalar}
    (read : scalarValue? s = some (value, rest)) (levels : Nat) :
    value? levels s = some (.scalar (.between s rest) value, rest) := by
  cases levels with
  | zero => simp [value?, read]
  | succ levels =>
    unfold value?
    split
    next => cases read
    next => cases read
    next => simp [read]

theorem skipBlanks_of_scalarValue? {s rest : List Char} {value : Scalar}
    (read : scalarValue? s = some (value, rest)) : skipBlanks s = s := by
  cases s with
  | nil => rfl
  | cons c s =>
    apply skipBlanks_of_not_isBlank
    rw [Bool.eq_false_iff]
    intro blank
    rcases Bool.or_eq_true_iff.1 blank with space | tab
    · rw [of_decide_eq_true space] at read
      cases read
    · rw [of_decide_eq_true tab] at read
      cases read

theorem skipBlanks_space (s : List Char) : skipBlanks (' ' :: s) = skipBlanks s := by
  simp [skipBlanks, isBlank]

theorem pair?_of_isReadable {line : Line} (readable : line.IsReadable) (levels : Nat)
    (rest : List Char) :
    ∃ entry, line.Sets entry ∧ pair? (value? levels) (line.chars ++ rest) =
      some ((⟨[], entry.1⟩, entry.2), '\n' :: rest) := by
  have read := readable.reads rest
  have value := value?_of_scalarValue? read levels
  have shown := skipBlanks_of_scalarValue? read
  have equals : skipBlanks ('=' :: ' ' :: (line.text.toList ++ '\n' :: rest)) =
      '=' :: ' ' :: (line.text.toList ++ '\n' :: rest) := skipBlanks_of_not_isBlank rfl _
  obtain ⟨span, key⟩ := keyPath?_of_bare readable.filled readable.bare ' '
    ('=' :: ' ' :: (line.text.toList ++ '\n' :: rest)) rfl
    (by rw [skipBlanks_space, equals]; simp)
  rw [String.ofList_toList, skipBlanks_space, equals] at key
  have text : line.chars ++ rest =
      line.key.toList ++ ' ' :: '=' :: ' ' :: (line.text.toList ++ '\n' :: rest) := by
    simp [Line.chars]
  refine ⟨(⟨line.key, span⟩,
    .scalar (.between (line.text.toList ++ '\n' :: rest) ('\n' :: rest)) line.value),
    ⟨span, _, rfl⟩, ?_⟩
  rw [text, pair?, key]
  simp only [Option.bind_eq_bind, Option.bind_some, skipBlanks_space, shown, value]
  rfl

theorem statementsFrom?_of_statement? {c : Char} {s rest : List Char} {statement : Statement}
    (notBlank : isBlank c = false) (notComment : c ≠ '#') (notEnd : c ≠ '\n') (notReturn : c ≠ '\r')
    (read : statement? (c :: s) = some (statement, '\n' :: rest)) (fuel : Nat) :
    statementsFrom? (fuel + 1) (c :: s) = (statementsFrom? fuel rest).map (statement :: ·) := by
  -- The line is neither empty nor a comment, so that it has to be a statement.
  have first : newline? (c :: s) = none := by
    unfold newline?
    split
    next same =>
      cases same
      exact absurd rfl notEnd
    next same =>
      cases same
      exact absurd rfl notReturn
    next => rfl
  have trailing : trailing? ('\n' :: rest) = some rest := rfl
  rw [statementsFrom?, skipBlanks_of_not_isBlank notBlank]
  split
  next same => cases same
  next same =>
    cases same
    exact absurd rfl notComment
  next same =>
    cases same
    rw [first]
    simp only [read, trailing, Option.bind_eq_bind, Option.bind_some]
    cases statementsFrom? fuel rest <;> rfl

theorem statementsFrom?_line {line : Line} (readable : line.IsReadable) (fuel : Nat)
    (rest : List Char) :
    ∃ entry, line.Sets entry ∧ statementsFrom? (fuel + 1) (line.chars ++ rest) =
      (statementsFrom? fuel rest).map (.pair ⟨[], entry.1⟩ entry.2 :: ·) := by
  obtain ⟨entry, sets, read⟩ := pair?_of_isReadable readable (depthLimit - 1) rest
  obtain ⟨c, word, spelled⟩ := List.exists_cons_of_ne_nil readable.filled
  have bare : isBare c := readable.bare c (by rw [spelled]; exact .head _)
  have other : ∀ d, isBare d = false → c ≠ d := by
    rintro d notBare rfl
    rw [bare] at notBare
    cases notBare
  have chars : line.chars ++ rest =
      c :: (word ++ ' ' :: '=' :: ' ' :: line.text.toList ++ '\n' :: rest) := by
    simp [Line.chars, spelled]
  rw [chars] at read ⊢
  -- Only the first character decides what kind of statement this is.
  generalize word ++ ' ' :: '=' :: ' ' :: line.text.toList ++ '\n' :: rest = behind at read ⊢
  have statement : statement? (c :: behind) = some (.pair ⟨[], entry.1⟩ entry.2, '\n' :: rest) := by
    unfold statement?
    split
    next same =>
      cases same
      cases bare
    next same =>
      cases same
      cases bare
    next => rw [read]; rfl
  exact ⟨entry, sets, statementsFrom?_of_statement? (isBlank_of_isBare bare) (other _ rfl) (other _ rfl)
    (other _ rfl) statement fuel⟩

/-- The characters of lines. -/
def linesChars (lines : List Line) : List Char := lines.flatMap Line.chars

theorem statementsFrom?_lines {lines : List Line} (readable : ∀ line ∈ lines, line.IsReadable)
    {fuel : Nat} (enough : lines.length < fuel) :
    ∃ entries, List.Forall₂ Line.Sets lines entries ∧ statementsFrom? fuel (linesChars lines) =
      some (entries.map fun entry => .pair ⟨[], entry.1⟩ entry.2) := by
  induction lines generalizing fuel with
  | nil =>
    cases fuel with
    | zero => cases enough
    | succ fuel => exact ⟨[], .nil, rfl⟩
  | cons line lines ih =>
    rw [List.forall_mem_cons] at readable
    cases fuel with
    | zero => cases enough
    | succ fuel =>
      obtain ⟨entries, sets, read⟩ := ih readable.2 (Nat.lt_of_succ_lt_succ enough)
      obtain ⟨entry, setsOne, readOne⟩ := statementsFrom?_line readable.1 fuel (linesChars lines)
      refine ⟨entry :: entries, .cons setsOne sets, ?_⟩
      rw [linesChars, List.flatMap_cons, ← linesChars, readOne, read]
      rfl

/-! ## Sections -/

theorem statementsFrom?_header {word : List Char} (filled : word ≠ []) (bare : ∀ c ∈ word, isBare c)
    (fuel : Nat) (rest : List Char) :
    ∃ span place, statementsFrom? (fuel + 1) ('[' :: (word ++ ']' :: '\n' :: rest)) =
      (statementsFrom? fuel rest).map (.header ⟨[], ⟨String.ofList word, span⟩⟩ false place :: ·) := by
  have closing : skipBlanks (']' :: '\n' :: rest) = ']' :: '\n' :: rest :=
    skipBlanks_of_not_isBlank rfl _
  obtain ⟨span, key⟩ := keyPath?_of_bare filled bare ']' ('\n' :: rest) rfl
    (by rw [closing]; simp)
  rw [closing] at key
  have statement : statement? ('[' :: (word ++ ']' :: '\n' :: rest)) =
      some (.header ⟨[], ⟨String.ofList word, span⟩⟩ false
        (.between ('[' :: (word ++ ']' :: '\n' :: rest)) ('\n' :: rest)), '\n' :: rest) := by
    unfold statement?
    split
    next same =>
      obtain ⟨c, more, rfl⟩ := List.exists_cons_of_ne_nil filled
      cases same
      cases bare _ (.head _)
    next same =>
      cases same
      simp [header?, key, skip?]
    next other => exact absurd rfl (other _)
  exact ⟨span, _, statementsFrom?_of_statement? rfl (by decide) (by decide) (by decide) statement fuel⟩

theorem sections_pairs (entries : Members) :
    sections (entries.map fun entry => .pair ⟨[], entry.1⟩ entry.2) =
      (entries.map fun entry => (⟨[], entry.1⟩, entry.2), []) := by
  induction entries with
  | nil => rfl
  | cons entry entries ih => simp [sections, ih]

theorem lookup?_eq_none {key : String} {members : Members}
    (other : ∀ entry ∈ members, entry.1.text ≠ key) : members.lookup? key = none := by
  induction members with
  | nil => rfl
  | cons entry members ih =>
    rw [List.forall_mem_cons] at other
    simp [Members.lookup?, other.1, ih other.2]

/-- Keys without dots are added in their order. -/
theorem insertAll?_of_nodup {entries members : Members}
    (distinct : ((members ++ entries).map fun entry => entry.1.text).Nodup) :
    Members.insertAll? (entries.map fun entry => (⟨[], entry.1⟩, entry.2)) members =
      some (members ++ entries) := by
  induction entries generalizing members with
  | nil => simp [Members.insertAll?]
  | cons entry entries ih =>
    have fresh : members.lookup? entry.1.text = none := by
      apply lookup?_eq_none
      intro other member same
      rw [List.map_append, List.nodup_append] at distinct
      exact distinct.2.2 _ (List.mem_map_of_mem member) _ (.head _) same
    have others : ((members ++ [entry] ++ entries).map fun entry => entry.1.text).Nodup := by
      simpa using distinct
    have next := ih others
    simp only [List.map_cons, Members.insertAll?, Members.insert?, Members.edit?, Members.append?, fresh,
      Option.bind_some]
    rw [next, List.append_assoc, List.singleton_append]

theorem length_le_linesChars (lines : List Line) : lines.length ≤ (linesChars lines).length := by
  induction lines with
  | nil => exact Nat.zero_le _
  | cons line lines ih =>
    simp only [linesChars, List.flatMap_cons, List.length_append, Line.chars, List.length_cons] at ih ⊢
    omega

theorem map_key_of_sets {lines : List Line} {entries : Members}
    (sets : List.Forall₂ Line.Sets lines entries) :
    entries.map (fun entry => entry.1.text) = lines.map Line.key := by
  induction sets with
  | nil => rfl
  | cons set _ ih =>
    obtain ⟨span, place, rfl⟩ := set
    rw [List.map_cons, List.map_cons, ih]

/-- A header and lines below it are read as one table with these values. -/
theorem parse?_section {header : String} {lines : List Line} (filled : header.toList ≠ [])
    (bare : ∀ c ∈ header.toList, isBare c) (readable : ∀ line ∈ lines, line.IsReadable)
    (distinct : (lines.map Line.key).Nodup) {text : String}
    (spelled : text.toList = '[' :: (header.toList ++ ']' :: '\n' :: linesChars lines)) :
    ∃ span place entries, List.Forall₂ Line.Sets lines entries ∧
      parse? text = some [(⟨header, span⟩, .table (some place) .header entries)] := by
  have enough : lines.length < text.toList.length := by
    have each := length_le_linesChars lines
    rw [spelled]
    simp only [List.length_cons, List.length_append]
    omega
  obtain ⟨entries, sets, pairs⟩ := statementsFrom?_lines readable enough
  obtain ⟨span, place, first⟩ := statementsFrom?_header filled bare text.toList.length (linesChars lines)
  rw [String.ofList_toList, pairs, ← spelled] at first
  have read : statements? text.toList = some (.header ⟨[], ⟨header, span⟩⟩ false place ::
      entries.map fun entry => .pair ⟨[], entry.1⟩ entry.2) := by
    have unmarked : text.toList.head? ≠ some byteOrderMark := by
      rw [spelled]
      simp [byteOrderMark]
    rw [statements?, if_neg unmarked]
    exact first
  -- No key is there twice, so that each entry is put behind the ones before it.
  have added : Members.insertAll? (entries.map fun entry => (⟨[], entry.1⟩, entry.2)) [] =
      some ([] ++ entries) := by
    apply insertAll?_of_nodup
    rwa [List.nil_append, map_key_of_sets sets]
  let whole : Section :=
    ⟨⟨[], ⟨header, span⟩⟩, false, place, entries.map fun entry => (⟨[], entry.1⟩, entry.2)⟩
  refine ⟨span, whole.wholeSpan, entries, sets, ?_⟩
  simp [parse?, read, sections, sections_pairs, Members.insertAll?, Members.addSections?,
    Members.addSection?, Members.edit?, Section.openTable?, Members.lookup?, added, whole]

end VectorFetch.Toml

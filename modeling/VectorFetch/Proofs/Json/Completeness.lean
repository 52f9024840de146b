import VectorFetch.Proofs.Json.Soundness

/-!
# The reader accepts what is in the grammar

* `Goes`: the reader gets through a text, from some containers and a mode to others.
* `Ended`: where the reader is behind a value. A number ends only with the next byte.
* `goes_value`, `goes_items`, `goes_members`: the reader gets through what the grammar derives.
* `parse_eq_ok_iff`: the documents that are accepted and their values.
-/

namespace VectorFetch.Json

open Utf8

/-! ## Going through a text -/

/-- From the containers and the mode `start`, the reader gets through the text to `stop`. -/
def Goes (start : List Frame × Mode) (text : List Char) (stop : List Frame × Mode) : Prop :=
  ∀ p, ∃ p', State.run ⟨p, start.1, start.2⟩ (encodeChars text) = .ok ⟨p', stop.1, stop.2⟩

theorem run_append {s s' : State} {bytes more : Bytes} (ran : s.run bytes = .ok s') :
    s.run (bytes ++ more) = s'.run more := by
  induction bytes generalizing s with
  | nil =>
    cases ran
    rfl
  | cons b rest ih =>
    simp only [State.run] at ran
    simp only [List.cons_append, State.run]
    split at ran
    next next stepped => exact ih ran
    next => cases ran

theorem Goes.refl (start : List Frame × Mode) : Goes start [] start := fun p => ⟨p, rfl⟩

theorem Goes.trans {start mid stop : List Frame × Mode} {text more : List Char}
    (first : Goes start text mid) (second : Goes mid more stop) : Goes start (text ++ more) stop := by
  intro p
  obtain ⟨p', ran⟩ := first p
  obtain ⟨p'', ran'⟩ := second p'
  exact ⟨p'', by rw [encodeChars_append, run_append ran, ran']⟩

theorem goes_token {start stop : List Frame × Mode} {c : Char} (token : start.2.isString = false)
    (ascii : c.toNat < 128) (stepped : stepToken start.1 start.2 c = .ok stop) :
    Goes start [c] stop := by
  intro p
  obtain ⟨b, bytes, rfl⟩ := exists_byte_of_ascii ascii
  have one := (State.step_token_iff (p := p) token).2 ⟨stop.1, stop.2, stepped, rfl⟩
  exact ⟨p.next b, by simp [bytes, State.run, one]⟩

theorem Mode.isString_of_skipsBlank {mode : Mode} (skips : mode.skipsBlank) :
    mode.isString = false := by
  cases mode <;> first | rfl | cases skips

theorem goes_blank {start : List Frame × Mode} {w : List Char} (skips : start.2.skipsBlank)
    (blank : Blank w) : Goes start w start := by
  induction w with
  | nil => exact .refl start
  | cons c w ih =>
    have space : isBlank c := isBlank_iff.2 (blank c (by simp))
    exact (goes_token (Mode.isString_of_skipsBlank skips) (ascii_of_isBlank space)
      (stepToken_of_isBlank skips space start.1)).trans (ih fun d member => blank d (by simp [member]))

/-! ## Strings -/

theorem run_string {frames : List Frame} {purpose : Purpose} {read read' body : Bytes}
    {escape escape' : Escape} (fed : Escape.feed? read escape body = some (read', escape'))
    (p : Position) :
    ∃ p', State.run ⟨p, frames, .string purpose read escape⟩ body =
      .ok ⟨p', frames, .string purpose read' escape'⟩ := by
  induction body generalizing read escape p with
  | nil =>
    cases fed
    exact ⟨p, rfl⟩
  | cons b rest ih =>
    by_cases ends : escape = .outside ∧ Char.ofUInt8 b = '"'
    · obtain ⟨rfl, quote⟩ := ends
      simp [Escape.feed?, quote] at fed
    · -- Only a quote outside an escape would end the string, and `feed?` has gone on.
      have goesOn : escape = .outside → Char.ofUInt8 b ≠ '"' := fun outside quote =>
        ends ⟨outside, quote⟩
      rw [feed?_cons goesOn] at fed
      split at fed
      next read₁ escape₁ moved =>
        obtain ⟨p', ran⟩ := ih fed (p.next b)
        have one : State.step ⟨p, frames, .string purpose read escape⟩ b =
            .ok ⟨p.next b, frames, .string purpose read₁ escape₁⟩ :=
          (State.step_string_iff goesOn).2 ⟨read₁, escape₁, moved, rfl⟩
        exact ⟨p', by simp only [State.run, one, ran]⟩
      next => cases fed

/-- A string from its opening quote on. -/
theorem goes_string {frames : List Frame} {purpose : Purpose} {start next : List Frame × Mode}
    {s : String} {text : List Char} (token : start.2.isString = false)
    (opens : stepToken start.1 start.2 '"' = .ok (frames, .string purpose [] .outside))
    (spelled : SpellsString s text) (after : AfterString frames s next purpose) :
    Goes start text next := by
  obtain ⟨body⟩ := spelled
  rename_i text
  have inside : Goes (frames, .string purpose [] .outside) text
      (frames, .string purpose (encodeChars s.toList).reverse .outside) := by
    intro p
    have fed := feed?_spelled body []
    rw [List.append_nil] at fed
    exact run_string fed p
  have closes : Goes (frames, .string purpose (encodeChars s.toList).reverse .outside) ['"'] next := by
    intro p
    -- Outside of escapes the quote ends the string, and what was read is decoded as a whole.
    have quote : Char.ofUInt8 0x22 = '"' := by decide
    have decoded : decode (encodeChars s.toList).reverse.reverse = .ok s.toList := by
      rw [List.reverse_reverse]
      exact decode_encodeChars s.toList
    have ended : endString frames purpose (encodeChars s.toList).reverse (p.next 0x22) =
        .ok next := endString_eq_ok_iff.2 ⟨s.toList, decoded, by rwa [String.ofList_toList]⟩
    have one := (State.step_quote_iff (p := p) quote).2 ⟨next.1, next.2, ended, rfl⟩
    exact ⟨p.next 0x22, by
      rw [show encodeChars ['"'] = [0x22] by decide]
      simp only [State.run, one]⟩
  exact ((goes_token token (by decide) opens).trans inside).trans closes

/-! ## Where values begin and end -/

/-- A value inside of `frames` may begin here. -/
inductive Starts : List Frame × Mode → List Frame → Prop
  | value {frames : List Frame} : Starts (frames, .value) frames
  | firstItem {frames : List Frame} : Starts (frames, .firstItem) (.array [] :: frames)
  | nextItem {frames : List Frame} {items : List Value} :
      Starts (frames, .nextItem items) (.array items :: frames)

theorem Starts.skipsBlank {start : List Frame × Mode} {frames : List Frame}
    (starts : Starts start frames) : start.2.skipsBlank := by
  cases starts <;> rfl

theorem Starts.isString {start : List Frame × Mode} {frames : List Frame}
    (starts : Starts start frames) : start.2.isString = false :=
  Mode.isString_of_skipsBlank starts.skipsBlank

theorem beginValue_of_isBlank {frames : List Frame} {c : Char} (space : isBlank c) :
    beginValue frames c = .error .expectedValue := by
  rcases isBlank_iff.1 space with rfl | rfl | rfl | rfl <;> rfl

theorem Starts.begin {start next : List Frame × Mode} {frames : List Frame} {c : Char}
    (starts : Starts start frames) (begun : beginValue frames c = .ok next) :
    stepToken start.1 start.2 c = .ok next := by
  -- No value begins with what `firstItem` would take for the end of the array.
  have dense : ¬isBlank c := fun space => by
    rw [beginValue_of_isBlank space] at begun
    cases begun
  have open' : c ≠ ']' := by
    rintro rfl
    cases begun
  cases starts <;> simpa only [stepToken, if_neg dense, if_neg open'] using begun

theorem Starts.openArray {start : List Frame × Mode} {frames : List Frame}
    (starts : Starts start frames) (room : frames.length < depthLimit) :
    Goes start ['['] (frames, .firstItem) :=
  goes_token starts.isString (by decide) (starts.begin (by simp [beginValue, room]))

theorem Starts.openObject {start : List Frame × Mode} {frames : List Frame}
    (starts : Starts start frames) (room : frames.length < depthLimit) :
    Goes start ['{'] (frames, .firstMember) :=
  goes_token starts.isString (by decide) (starts.begin (by simp [beginValue, room]))

/-- Behind a complete value inside of `frames`. A number may still go on. -/
inductive Ended (value : Value) (frames : List Frame) : List Frame × Mode → Prop
  | settled : Ended value frames (complete value frames)
  | number {scan : Number.Scan} (complete : scan.phase.isComplete)
      (same : value = .number scan.text) : Ended value frames (frames, .number scan)

theorem stepToken_complete (value : Value) (frames : List Frame) (c : Char) :
    stepToken (complete value frames).1 (complete value frames).2 c =
      afterValue (complete value frames).1 (complete value frames).2 c := by
  unfold complete
  split <;> rfl

/-- No number goes on with another character. -/
theorem move_of_delimits {phase : Number.Phase} {c : Char} (complete : phase.isComplete)
    (delimits : ¬IsNumberChar c) : phase.move c = .leave := by
  have digit : c.isDigit = false := by
    simpa using fun digit => delimits (.inl digit)
  have others : c ≠ '.' ∧ c ≠ 'e' ∧ c ≠ 'E' := by
    refine ⟨?_, ?_, ?_⟩ <;> exact fun same => delimits (.inr (by simp [same]))
  cases phase <;> simp_all [Number.Phase.move, Number.afterInteger, Number.Phase.isComplete]

theorem Ended.isString {value : Value} {frames : List Frame} {here : List Frame × Mode}
    (ended : Ended value frames here) : here.2.isString = false := by
  cases ended with
  | settled => unfold complete; split <;> rfl
  | number => rfl

/-- What comes next is read as behind a complete value. -/
theorem Ended.step {value : Value} {frames : List Frame} {here next : List Frame × Mode} {c : Char}
    (ended : Ended value frames here) (delimits : ¬IsNumberChar c)
    (stepped : afterValue (complete value frames).1 (complete value frames).2 c = .ok next) :
    stepToken here.1 here.2 c = .ok next := by
  cases ended with
  | settled => rw [stepToken_complete, stepped]
  | number complete same =>
    subst same
    simp only [stepToken, move_of_delimits complete delimits]
    exact stepped

theorem Ended.goes {value : Value} {frames : List Frame} {here next : List Frame × Mode} {c : Char}
    (ended : Ended value frames here) (delimits : ¬IsNumberChar c) (ascii : c.toNat < 128)
    (stepped : afterValue (complete value frames).1 (complete value frames).2 c = .ok next) :
    Goes here [c] next :=
  goes_token ended.isString ascii (ended.step delimits stepped)

theorem Ended.blank {value : Value} {frames : List Frame} {here : List Frame × Mode} {w : List Char}
    (ended : Ended value frames here) (blank : Blank w) :
    ∃ stop, Ended value frames stop ∧ Goes here w stop := by
  have skips : (complete value frames).2.skipsBlank := by unfold complete; split <;> rfl
  cases w with
  | nil => exact ⟨here, ended, .refl here⟩
  | cons c w =>
    have space : isBlank c := isBlank_iff.2 (blank c (by simp))
    have delimits : ¬IsNumberChar c := by
      rcases isBlank_iff.1 space with rfl | rfl | rfl | rfl <;> decide
    have stepped := stepToken_of_isBlank skips space (complete value frames).1
    rw [stepToken_complete] at stepped
    -- The first space settles a number that was still under way. The others change nothing.
    refine ⟨complete value frames, .settled, ?_⟩
    exact (ended.goes delimits (ascii_of_isBlank space) stepped).trans
      (goes_blank skips fun d member => blank d (by simp [member]))

/-! ## Words, numbers and strings -/

theorem goes_rest {frames : List Frame} {value : Value} {next : Char} {rest : List Char}
    (ascii : ∀ c ∈ next :: rest, c.toNat < 128) :
    Goes (frames, .word next rest value) (next :: rest) (complete value frames) := by
  induction rest generalizing next with
  | nil => exact goes_token rfl (ascii next (by simp)) (by simp [stepToken])
  | cons next' rest ih =>
    have first : Goes (frames, .word next (next' :: rest) value) [next]
        (frames, .word next' rest value) :=
      goes_token rfl (ascii next (by simp)) (by simp [stepToken])
    exact first.trans (ih fun c member => ascii c (.tail _ member))

theorem goes_word {start : List Frame × Mode} {frames : List Frame} {value : Value}
    {first next : Char} {rest : List Char} (starts : Starts start frames)
    (ascii : ∀ c ∈ first :: next :: rest, c.toNat < 128)
    (begun : beginValue frames first = .ok (frames, .word next rest value)) :
    Goes start (first :: next :: rest) (complete value frames) :=
  (goes_token starts.isString (ascii first (by simp)) (starts.begin begun)).trans
    (goes_rest fun c member => ascii c (.tail _ member))

theorem beginValue_of_begin? {frames : List Frame} {c : Char} {scan : Number.Scan}
    (begun : Number.Scan.begin? c = some scan) :
    beginValue frames c = .ok (frames, .number scan) := by
  unfold beginValue
  split
  case h_7 => rw [begun]
  all_goals cases begun

theorem goes_feed {frames : List Frame} {scan scan' : Number.Scan} {text : List Char}
    (fed : Number.feed? scan text = some scan') :
    Goes (frames, .number scan) text (frames, .number scan') := by
  induction text generalizing scan with
  | nil =>
    cases fed
    exact .refl _
  | cons c rest ih =>
    simp only [Number.feed?] at fed
    split at fed
    next written next moved =>
      have first : Goes (frames, .number scan) [c] (frames, .number (scan.extend written next)) :=
        goes_token rfl (Number.isNumberChar_of_move moved).ascii (by simp only [stepToken, moved])
      exact first.trans (ih fed)
    all_goals cases fed

theorem goes_number {start : List Frame × Mode} {frames : List Frame} (starts : Starts start frames)
    (n : Numeral) : ∃ stop, Ended n.toValue frames stop ∧ Goes start n.text stop := by
  obtain ⟨scan, scanned, complete, same⟩ := Number.scan?_text n
  refine ⟨(frames, .number scan), .number complete (by rw [same]; rfl), ?_⟩
  cases text : n.text with
  | nil => simp [text, Number.scan?] at scanned
  | cons c rest =>
    rw [text] at scanned
    obtain ⟨first, begun, fed⟩ := Option.bind_eq_some_iff.1 scanned
    exact (goes_token starts.isString (Number.isNumberChar_of_begin? begun).ascii
      (starts.begin (beginValue_of_begin? begun))).trans (goes_feed fed)

/-! ## Arrays and objects -/

/-- The next member of an object may stand here. -/
inductive StartsMember (frames : List Frame) : Members → List Frame × Mode → Prop
  | first : StartsMember frames [] (frames, .firstMember)
  | next {members : Members} : StartsMember frames members (frames, .nextMember members)

theorem StartsMember.skipsBlank {frames : List Frame} {members : Members}
    {start : List Frame × Mode} (starts : StartsMember frames members start) :
    start.2.skipsBlank := by
  cases starts <;> rfl

theorem goes_name {frames : List Frame} {members : Members} {start : List Frame × Mode}
    {name : String} {head : List Char} (starts : StartsMember frames members start)
    (named : SpellsName name head) (unmarked : ¬(members = [] ∧ name = numberName)) :
    Goes start head (.object members name :: frames, .value) := by
  obtain ⟨before, spelled, behind⟩ := named
  have token : start.2.isString = false := Mode.isString_of_skipsBlank starts.skipsBlank
  have opens : stepToken start.1 start.2 '"' = .ok (frames, .string (.name members) [] .outside) := by
    cases starts <;> rfl
  have read : Goes start _ (frames, .afterName members name) :=
    goes_string token opens spelled (by simp only [AfterString, if_neg unmarked])
  have colon : Goes (frames, .afterName members name) [':']
      (.object members name :: frames, .value) := goes_token rfl (by decide) rfl
  exact (((goes_blank starts.skipsBlank before).trans read).trans (goes_blank rfl behind)).trans colon

/-- An object that stands for a number, from its brace on. -/
theorem goes_marked {frames : List Frame} {s : String} {n : Numeral} {text : List Char}
    (spelled : SpellsMembers [(numberName, .string s)] text) (numeral : s.toList = n.text) :
    Goes (frames, .firstMember) (text ++ ['}']) (complete n.toValue frames) := by
  cases spelled with
  | last named blank spelled blank' =>
    -- The one member that is not kept as such: its name is the mark and its text is a number.
    obtain ⟨before, name, behind⟩ := named
    have marker : Goes (frames, .firstMember) _ (frames, .afterMarker) :=
      (goes_blank rfl before).trans
        (goes_string rfl rfl name (by simp [AfterString]))
    have colon : Goes (frames, .afterMarker) _ (frames, .markedValue) :=
      (goes_blank rfl behind).trans (goes_token (c := ':') rfl (by decide) rfl)
    cases spelled with
    | string value =>
      have number : Goes (frames, .markedValue) _
          (frames, .afterMarkedValue (String.ofList n.normal.text)) :=
        (goes_blank rfl blank).trans
          (goes_string rfl rfl value ⟨n, numeral, rfl⟩)
      have closes : Goes (frames, .afterMarkedValue (String.ofList n.normal.text)) _
          (complete n.toValue frames) :=
        (goes_blank rfl blank').trans (goes_token (c := '}') rfl (by decide) rfl)
      have whole := ((marker.trans colon).trans number).trans closes
      simpa using whole
  | cons _ _ _ _ rest => cases rest

theorem values?_cons {tree : Tree} {trees : List Tree} {values : List Value}
    (means : values? (tree :: trees) = some values) :
    ∃ first rest, tree.value? = some first ∧ values? trees = some rest ∧ values = first :: rest := by
  simp only [values?] at means
  split at means
  next first rest read readRest =>
    cases means
    exact ⟨first, rest, read, readRest, rfl⟩
  next => cases means

theorem members?_cons {done members : Members} {name : String} {tree : Tree}
    {trees : List (String × Tree)} (means : members? done ((name, tree) :: trees) = some members) :
    ∃ first, tree.value? = some first ∧ members? (done.insert name first) trees = some members := by
  simp only [members?] at means
  split at means
  next first read => exact ⟨first, read, means⟩
  next => cases means

theorem markedValue?_eq_some {members : List (String × Tree)} {value : Value}
    (marked : IsMarked members) (means : markedValue? members = some value) :
    ∃ s, ∃ n : Numeral, members = [(numberName, .string s)] ∧ s.toList = n.text ∧
      value = n.toValue := by
  unfold markedValue? at means
  split at means
  next name s =>
    obtain ⟨n, read, rfl⟩ := Option.map_eq_some_iff.1 means
    have named : name = numberName := by simpa [IsMarked] using marked
    exact ⟨s, n, by rw [named], (Numeral.text_of_ofText? read).symm, rfl⟩
  next => cases means

theorem Ended.nextItem {value : Value} {frames : List Frame} {items : List Value}
    {here : List Frame × Mode} (ended : Ended value (.array items :: frames) here) :
    Goes here [','] (frames, .nextItem (value :: items)) :=
  ended.goes (by decide) (by decide) rfl

theorem Ended.lastItem {value : Value} {frames : List Frame} {items : List Value}
    {here : List Frame × Mode} (ended : Ended value (.array items :: frames) here) :
    Goes here [']'] (Json.complete (.array (items.reverse ++ [value])) frames) :=
  ended.goes (by decide) (by decide) (by rw [← List.reverse_cons]; rfl)

theorem Ended.nextMember {value : Value} {frames : List Frame} {members : Members} {name : String}
    {here : List Frame × Mode} (ended : Ended value (.object members name :: frames) here) :
    Goes here [','] (frames, .nextMember (members.insert name value)) :=
  ended.goes (by decide) (by decide) rfl

theorem Ended.lastMember {value : Value} {frames : List Frame} {members : Members} {name : String}
    {here : List Frame × Mode} (ended : Ended value (.object members name :: frames) here) :
    Goes here ['}'] (Json.complete (.object (members.insert name value)) frames) :=
  ended.goes (by decide) (by decide) rfl

mutual

/-- The reader gets through a value. -/
theorem goes_value {tree : Tree} {text : List Char} {value : Value} {frames : List Frame}
    {start : List Frame × Mode} (spelled : Spells tree text) (means : tree.value? = some value)
    (fits : tree.depth + frames.length ≤ depthLimit) (starts : Starts start frames) :
    ∃ stop, Ended value frames stop ∧ Goes start text stop := by
  cases spelled with
  | null => cases means; exact ⟨_, .settled, goes_word starts (by simp) rfl⟩
  | true => cases means; exact ⟨_, .settled, goes_word starts (by simp) rfl⟩
  | false => cases means; exact ⟨_, .settled, goes_word starts (by simp) rfl⟩
  | number n => cases means; exact goes_number starts n
  | string spelled =>
    cases means
    exact ⟨_, .settled, goes_string starts.isString (starts.begin rfl) spelled rfl⟩
  | emptyArray blank =>
    cases means
    have room : frames.length < depthLimit := by simp only [Tree.depth] at fits; omega
    have opens := starts.openArray room
    have closes : Goes (frames, .firstItem) [']'] (complete (.array []) frames) :=
      goes_token rfl (by decide) rfl
    exact ⟨_, .settled, (opens.trans (goes_blank rfl blank)).trans closes⟩
  | array spelled =>
    obtain ⟨values, read, rfl⟩ := Option.map_eq_some_iff.1 means
    have room : frames.length < depthLimit := by simp only [Tree.depth] at fits; omega
    have opens := starts.openArray room
    have inside : Goes (frames, .firstItem) _ (complete (.array values) frames) :=
      goes_items spelled read (by simp only [Tree.depth] at fits; omega) .firstItem
    exact ⟨_, .settled, opens.trans inside⟩
  | emptyObject blank =>
    cases means
    have room : frames.length < depthLimit := by simp only [Tree.depth] at fits; omega
    have opens := starts.openObject room
    have closes : Goes (frames, .firstMember) ['}'] (complete (.object []) frames) :=
      goes_token rfl (by decide) rfl
    exact ⟨_, .settled, (opens.trans (goes_blank rfl blank)).trans closes⟩
  | object spelled =>
    have room : frames.length < depthLimit := by simp only [Tree.depth] at fits; omega
    have opens := starts.openObject room
    -- What the first member is called decides how all of the members are read.
    simp only [Tree.value?] at means
    split at means
    next marked =>
      obtain ⟨s, n, rfl, numeral, rfl⟩ := markedValue?_eq_some marked means
      exact ⟨_, .settled, opens.trans (goes_marked spelled numeral)⟩
    next unmarked =>
      obtain ⟨members, read, rfl⟩ := Option.map_eq_some_iff.1 means
      have inside : Goes (frames, .firstMember) _ (complete (.object members) frames) :=
        goes_members spelled read (fun _ => unmarked) (by simp only [Tree.depth] at fits; omega) .first
      exact ⟨_, .settled, opens.trans inside⟩
termination_by sizeOf tree

theorem goes_items {trees : List Tree} {text : List Char} {values before : List Value}
    {frames : List Frame} {start : List Frame × Mode} (spelled : SpellsItems trees text)
    (means : values? trees = some values)
    (fits : depthOfItems trees + (frames.length + 1) ≤ depthLimit)
    (starts : Starts start (.array before :: frames)) :
    Goes start (text ++ [']']) (complete (.array (before.reverse ++ values)) frames) := by
  cases spelled with
  | last blank spelled blank' =>
    obtain ⟨value, _, read, rest, rfl⟩ := values?_cons means
    cases rest
    obtain ⟨stop, ended, item⟩ := goes_value spelled read
      (by simpa [depthOfItems] using fits) starts
    obtain ⟨stop', ended', more⟩ := ended.blank blank'
    exact (((goes_blank starts.skipsBlank blank).trans item).trans more).trans ended'.lastItem
  | cons blank spelled blank' rest =>
    obtain ⟨value, values, read, readRest, rfl⟩ := values?_cons means
    simp only [depthOfItems] at fits
    obtain ⟨stop, ended, item⟩ := goes_value spelled read (by simp only [List.length_cons]; omega) starts
    obtain ⟨stop', ended', more⟩ := ended.blank blank'
    have front := (((goes_blank starts.skipsBlank blank).trans item).trans more).trans ended'.nextItem
    have others : Goes (frames, .nextItem (value :: before)) _ _ :=
      goes_items rest readRest (by omega) .nextItem
    simpa using front.trans others
termination_by sizeOf trees

theorem goes_members {trees : List (String × Tree)} {text : List Char} {members before : Members}
    {frames : List Frame} {start : List Frame × Mode} (spelled : SpellsMembers trees text)
    (means : members? before trees = some members) (unmarked : before = [] → ¬IsMarked trees)
    (fits : depthOfMembers trees + (frames.length + 1) ≤ depthLimit)
    (starts : StartsMember frames before start) :
    Goes start (text ++ ['}']) (complete (.object members) frames) := by
  cases spelled with
  | @last name _ _ _ _ _ named blank spelled blank' =>
    obtain ⟨value, read, rest⟩ := members?_cons means
    cases rest
    have head := goes_name starts named fun ⟨first, marker⟩ =>
      unmarked first (by simp [IsMarked, marker])
    have inner : Starts (.object before name :: frames, .value) (.object before name :: frames) :=
      .value
    obtain ⟨stop, ended, item⟩ := goes_value spelled read
      (by simpa [depthOfMembers] using fits) inner
    obtain ⟨stop', ended', more⟩ := ended.blank blank'
    exact (((head.trans (goes_blank rfl blank)).trans item).trans more).trans ended'.lastMember
  | @cons name _ _ _ _ _ _ _ named blank spelled blank' rest =>
    obtain ⟨value, read, readRest⟩ := members?_cons means
    simp only [depthOfMembers] at fits
    have head := goes_name starts named fun ⟨first, marker⟩ =>
      unmarked first (by simp [IsMarked, marker])
    have inner : Starts (.object before name :: frames, .value) (.object before name :: frames) :=
      .value
    obtain ⟨stop, ended, item⟩ := goes_value spelled read
      (by simp only [List.length_cons]; omega) inner
    obtain ⟨stop', ended', more⟩ := ended.blank blank'
    have front := (((head.trans (goes_blank rfl blank)).trans item).trans more).trans ended'.nextMember
    -- Behind the first member the marker is a name like any other.
    have others : Goes (frames, .nextMember (before.insert name value)) _ _ :=
      goes_members rest readRest (fun none => absurd none (Members.insert_ne_nil _ _ _)) (by omega) .next
    simpa using front.trans others
termination_by sizeOf trees

end

/-! ## Documents -/

theorem Ended.finish {value : Value} {here : List Frame × Mode} (ended : Ended value [] here)
    (p : Position) : State.finish ⟨p, here.1, here.2⟩ = .ok value := by
  cases ended with
  | settled => rfl
  | number complete same => simp [State.finish, complete, Json.complete, Mode.finish, same]

theorem parse_of_isDocument {tree : Tree} {document : Bytes} {value : Value}
    (derived : IsDocument tree document) (means : tree.value? = some value) :
    parse document = .ok value := by
  obtain ⟨whole, fits⟩ := derived
  obtain ⟨before, spelled, behind⟩ := whole
  -- A number is complete only at the end of the document, so the reader need not be settled.
  have starts : Starts ([], .value) [] := .value
  obtain ⟨stop, ended, goes⟩ := goes_value spelled means (by simpa using fits) starts
  obtain ⟨stop', ended', goes'⟩ := ended.blank behind
  have start : Goes ([], .value) _ ([], .value) := goes_blank rfl before
  obtain ⟨p, ran⟩ := ((start.trans goes).trans goes') .start
  unfold parse
  rw [show State.start = ⟨.start, [], .value⟩ from rfl, ran]
  exact ended'.finish p

/-- The documents that are accepted are those with a derivation that nests no deeper than the
limit and has a value. That value is what is read. -/
theorem parse_eq_ok_iff {document : Bytes} {value : Value} :
    parse document = .ok value ↔ ∃ tree, IsDocument tree document ∧ tree.value? = some value :=
  ⟨exists_tree_of_parse, fun ⟨_, derived, means⟩ => parse_of_isDocument derived means⟩

end VectorFetch.Json

import VectorFetch.Proofs.Json.Steps

/-!
# What the reader accepts is in the grammar

While the reader goes through a document, the bytes behind it are a part of a derivation
that its state describes.

* `Opened`: the text in front of a value, container by container.
* `Reading`: the text behind the reader between two tokens, mode by mode.
* `Seen`: the bytes behind the reader, strings and numbers that are not complete included.
* `Seen.step`, `Seen.run`: each step and each run keeps to a derivation.
* `exists_tree_of_parse`: a document that is accepted has a derivation.
-/

namespace VectorFetch.Json

open Utf8

/-! ## What a complete value says -/

/-- `Says n value text`: inside `n` containers, the text says the value. -/
inductive Says (n : Nat) (value : Value) : List Char → Prop
  | intro {tree : Tree} {text : List Char} (spelled : Spells tree text)
      (means : tree.value? = some value) (fits : tree.depth + n ≤ depthLimit) : Says n value text

/-- The same for one item or more, the latest first. -/
inductive SaysItems (n : Nat) (items : List Value) : List Char → Prop
  | intro {trees : List Tree} {text : List Char} (spelled : SpellsItems trees text)
      (means : values? trees = some items.reverse) (fits : depthOfItems trees + n ≤ depthLimit) :
      SaysItems n items text

/-- The same for one member or more. -/
inductive SaysMembers (n : Nat) (members : Members) : List Char → Prop
  | intro {trees : List (String × Tree)} {text : List Char} (spelled : SpellsMembers trees text)
      (unmarked : ¬IsMarked trees) (means : members? [] trees = some members)
      (fits : depthOfMembers trees + n ≤ depthLimit) : SaysMembers n members text

mutual

/-- `Opened frames t`: behind the text, a value may stand inside the containers. -/
inductive Opened : List Frame → List Char → Prop
  | top {w : List Char} (blank : Blank w) : Opened [] w
  | array {frames : List Frame} {items : List Value} {t w : List Char}
      (inside : InArray frames items t) (blank : Blank w) : Opened (.array items :: frames) (t ++ w)
  | object {frames : List Frame} {members : Members} {name : String} {t head w : List Char}
      (inside : InObject frames members t) (named : SpellsName name head) (blank : Blank w)
      (unmarked : members = [] → name ≠ numberName) :
      Opened (.object members name :: frames) (t ++ head ++ w)

/-- Behind the text, the next item of an array may stand. -/
inductive InArray : List Frame → List Value → List Char → Prop
  | first {frames : List Frame} {t : List Char} (opened : Opened frames t)
      (room : frames.length < depthLimit) : InArray frames [] (t ++ ['['])
  | next {frames : List Frame} {items : List Value} {t text : List Char} (opened : Opened frames t)
      (room : frames.length < depthLimit) (read : SaysItems (frames.length + 1) items text) :
      InArray frames items (t ++ '[' :: text ++ [','])

/-- Behind the text, the next member of an object may stand. -/
inductive InObject : List Frame → Members → List Char → Prop
  | first {frames : List Frame} {t : List Char} (opened : Opened frames t)
      (room : frames.length < depthLimit) : InObject frames [] (t ++ ['{'])
  | next {frames : List Frame} {members : Members} {t text : List Char} (opened : Opened frames t)
      (room : frames.length < depthLimit) (read : SaysMembers (frames.length + 1) members text) :
      InObject frames members (t ++ '{' :: text ++ [','])

end

/-- The text behind the reader when a value has just been completed. -/
inductive Behind : List Frame → Mode → List Char → Prop
  | done {value : Value} {t w : List Char} (blank : Blank w) (read : Says 0 value t) {w' : List Char}
      (blank' : Blank w') : Behind [] (.done value) (w ++ t ++ w')
  | item {frames : List Frame} {items : List Value} {t text : List Char} (opened : Opened frames t)
      (room : frames.length < depthLimit) (read : SaysItems (frames.length + 1) items text) :
      Behind frames (.afterItem items) (t ++ '[' :: text)
  | member {frames : List Frame} {members : Members} {t text : List Char} (opened : Opened frames t)
      (room : frames.length < depthLimit) (read : SaysMembers (frames.length + 1) members text) :
      Behind frames (.afterMember members) (t ++ '{' :: text)

/-- The text behind the reader between two tokens, and inside words and numbers. -/
inductive Reading : List Frame → Mode → List Char → Prop
  | value {frames : List Frame} {t : List Char} (opened : Opened frames t) : Reading frames .value t
  | firstItem {frames : List Frame} {t w : List Char} (opened : Opened frames t)
      (room : frames.length < depthLimit) (blank : Blank w) :
      Reading frames .firstItem (t ++ '[' :: w)
  | nextItem {frames : List Frame} {items : List Value} {t : List Char}
      (opened : Opened (.array items :: frames) t) : Reading frames (.nextItem items) t
  | firstMember {frames : List Frame} {t w : List Char} (opened : Opened frames t)
      (room : frames.length < depthLimit) (blank : Blank w) :
      Reading frames .firstMember (t ++ '{' :: w)
  | nextMember {frames : List Frame} {members : Members} {t w : List Char}
      (inside : InObject frames members t) (blank : Blank w) :
      Reading frames (.nextMember members) (t ++ w)
  | afterName {frames : List Frame} {members : Members} {name : String} {t w text w' : List Char}
      (inside : InObject frames members t) (before : Blank w) (spelled : SpellsString name text)
      (behind : Blank w') (unmarked : members = [] → name ≠ numberName) :
      Reading frames (.afterName members name) (t ++ w ++ text ++ w')
  | word {frames : List Frame} {value : Value} {t text rest : List Char} {next : Char}
      (opened : Opened frames t) (whole : Says frames.length value (text ++ next :: rest))
      (ascii : ∀ c ∈ next :: rest, c.toNat < 128) :
      Reading frames (.word next rest value) (t ++ text)
  | number {frames : List Frame} {scan : Number.Scan} {t text : List Char}
      (opened : Opened frames t) (scanned : Number.scan? text = some scan) :
      Reading frames (.number scan) (t ++ text)
  | afterMarker {frames : List Frame} {t w text w' : List Char} (opened : Opened frames t)
      (room : frames.length < depthLimit) (before : Blank w)
      (spelled : SpellsString numberName text) (behind : Blank w') :
      Reading frames .afterMarker (t ++ '{' :: w ++ text ++ w')
  | markedValue {frames : List Frame} {t head w : List Char} (opened : Opened frames t)
      (room : frames.length < depthLimit) (named : SpellsName numberName head) (blank : Blank w) :
      Reading frames .markedValue (t ++ '{' :: head ++ w)
  | afterMarkedValue {frames : List Frame} {s : String} {n : Numeral} {t text : List Char}
      (opened : Opened frames t) (room : frames.length < depthLimit)
      (spelled : SpellsMembers [(numberName, .string s)] text) (numeral : s.toList = n.text) :
      Reading frames (.afterMarkedValue (String.ofList n.normal.text)) (t ++ '{' :: text)
  | behind {frames : List Frame} {mode : Mode} {t : List Char} (done : Behind frames mode t) :
      Reading frames mode t

/-- The text in front of a string and its opening quote. -/
inductive Quoted : List Frame → Purpose → List Char → Prop
  | value {frames : List Frame} {t : List Char} (opened : Opened frames t) : Quoted frames .value t
  | name {frames : List Frame} {members : Members} {t w : List Char}
      (inside : InObject frames members t) (blank : Blank w) : Quoted frames (.name members) (t ++ w)
  | number {frames : List Frame} {t head w : List Char} (opened : Opened frames t)
      (room : frames.length < depthLimit) (named : SpellsName numberName head) (blank : Blank w) :
      Quoted frames .number (t ++ '{' :: head ++ w)

/-- The reader is inside a word or a number that may not stand there. No document with one
is accepted. -/
inductive Astray : Mode → Prop
  | word {next : Char} {rest : List Char} {found : Found} : Astray (.markedWord next rest found)
  | number {scan : Number.Scan} : Astray (.markedNumber scan)

/-- The bytes behind the reader. -/
inductive Seen : List Frame → Mode → Bytes → Prop
  | token {frames : List Frame} {mode : Mode} {t : List Char} (reading : Reading frames mode t) :
      Seen frames mode (encodeChars t)
  | string {frames : List Frame} {purpose : Purpose} {t : List Char} {read body : Bytes}
      {escape : Escape} (quoted : Quoted frames purpose t)
      (fed : Escape.feed? [] .outside body = some (read, escape)) :
      Seen frames (.string purpose read escape) (encodeChars (t ++ ['"']) ++ body)
  | astray {frames : List Frame} {mode : Mode} {bytes : Bytes} (astray : Astray mode) :
      Seen frames mode bytes

/-! ## Complete values -/

theorem SaysItems.first {n : Nat} {value : Value} {w text : List Char} (blank : Blank w)
    (item : Says n value text) : SaysItems n [value] (w ++ text) := by
  obtain ⟨spelled, means, fits⟩ := item
  have alone := SpellsItems.last blank spelled blank_nil
  rw [List.append_nil] at alone
  exact .intro alone (by simp [values?, means]) (by simpa [depthOfItems] using fits)

theorem SaysItems.snoc {n : Nat} {items : List Value} {value : Value} {front w text : List Char}
    (read : SaysItems n items front) (blank : Blank w) (item : Says n value text) :
    SaysItems n (value :: items) (front ++ ',' :: (w ++ text)) := by
  obtain ⟨spelled, means, fits⟩ := read
  obtain ⟨last, lastMeans, lastFits⟩ := item
  have longer := spelled.snoc blank last blank_nil
  rw [List.append_nil] at longer
  refine .intro longer ?_ ?_
  · rw [List.reverse_cons]
    exact values?_snoc means lastMeans
  · rw [depthOfItems_snoc]
    omega

theorem SaysMembers.first {n : Nat} {name : String} {value : Value} {head w text : List Char}
    (named : SpellsName name head) (unmarked : name ≠ numberName) (blank : Blank w)
    (member : Says n value text) :
    SaysMembers n (Members.insert [] name value) (head ++ w ++ text) := by
  obtain ⟨spelled, means, fits⟩ := member
  have alone := SpellsMembers.last named blank spelled blank_nil
  rw [List.append_nil] at alone
  exact .intro alone (by simpa [IsMarked] using unmarked) (by simp [members?, means])
    (by simpa [depthOfMembers] using fits)

theorem SaysMembers.snoc {n : Nat} {members : Members} {name : String} {value : Value}
    {front head w text : List Char} (read : SaysMembers n members front)
    (named : SpellsName name head) (blank : Blank w) (member : Says n value text) :
    SaysMembers n (members.insert name value) (front ++ ',' :: (head ++ w ++ text)) := by
  obtain ⟨spelled, unmarked, means, fits⟩ := read
  obtain ⟨last, lastMeans, lastFits⟩ := member
  have longer := spelled.snoc named blank last blank_nil
  rw [List.append_nil] at longer
  refine .intro longer ?_ (members?_snoc means lastMeans) ?_
  · cases spelled <;> simpa [IsMarked] using unmarked
  · rw [depthOfMembers_snoc]
    omega

/-- A complete value is the next item or member of the container around it. -/
theorem Opened.complete {frames frames' : List Frame} {mode : Mode} {t text : List Char}
    {value : Value} (opened : Opened frames t) (read : Says frames.length value text)
    (completed : complete value frames = (frames', mode)) : Behind frames' mode (t ++ text) := by
  cases opened with
  | top blank =>
    cases completed
    simpa using Behind.done blank read blank_nil
  | array inside blank =>
    cases completed
    cases inside with
    | first opened room => simpa using Behind.item opened room (.first blank read)
    | next opened room front => simpa using Behind.item opened room (front.snoc blank read)
  | object inside named blank unmarked =>
    cases completed
    cases inside with
    | first opened room =>
      simpa using Behind.member opened room (.first named (unmarked rfl) blank read)
    | next opened room front => simpa using Behind.member opened room (front.snoc named blank read)

theorem Opened.length_le {frames : List Frame} {t : List Char} (opened : Opened frames t) :
    frames.length ≤ depthLimit := by
  cases opened with
  | top => simp
  | array inside => cases inside <;> assumption
  | object inside => cases inside <;> assumption

/-- A value without items or members fits wherever a value may stand. -/
theorem Opened.scalar {frames : List Frame} {t text : List Char} {tree : Tree} {value : Value}
    (opened : Opened frames t) (spelled : Spells tree text) (means : tree.value? = some value)
    (flat : tree.depth = 0) : Says frames.length value text :=
  .intro spelled means (by rw [flat, Nat.zero_add]; exact opened.length_le)

/-- A literal that may end here is a numeral. -/
theorem Opened.number {frames : List Frame} {t text : List Char} {scan : Number.Scan}
    (opened : Opened frames t) (scanned : Number.scan? text = some scan)
    (complete : scan.phase.isComplete) : Says frames.length (.number scan.text) text := by
  obtain ⟨n, rfl, same⟩ := Number.exists_numeral_of_scan? scanned complete
  exact opened.scalar (.number n) (by simp [Tree.value?, Numeral.toValue, same]) rfl

/-! ## More white space -/

theorem SpellsItems.blank {items : List Tree} {text w : List Char} (spelled : SpellsItems items text)
    (blank : Blank w) : SpellsItems items (text ++ w) := by
  induction items generalizing text with
  | nil => cases spelled
  | cons item items ih =>
    cases spelled with
    | last before item behind =>
      rw [List.append_assoc]
      exact .last before item (behind.append blank)
    | cons before item behind rest => simpa using SpellsItems.cons before item behind (ih rest)

theorem SpellsMembers.blank {members : List (String × Tree)} {text w : List Char}
    (spelled : SpellsMembers members text) (blank : Blank w) :
    SpellsMembers members (text ++ w) := by
  induction members generalizing text with
  | nil => cases spelled
  | cons member members ih =>
    cases spelled with
    | last named before member behind =>
      rw [List.append_assoc]
      exact .last named before member (behind.append blank)
    | cons named before member behind rest =>
      simpa using SpellsMembers.cons named before member behind (ih rest)

theorem Opened.blank {frames : List Frame} {t w : List Char} (opened : Opened frames t)
    (blank : Blank w) : Opened frames (t ++ w) := by
  cases opened with
  | top before => exact .top (before.append blank)
  | array inside before =>
    rw [List.append_assoc]
    exact .array inside (before.append blank)
  | object inside named before unmarked =>
    rw [List.append_assoc]
    exact .object inside named (before.append blank) unmarked

theorem Behind.blank {frames : List Frame} {mode : Mode} {t w : List Char}
    (behind : Behind frames mode t) (blank : Blank w) : Behind frames mode (t ++ w) := by
  cases behind with
  | done before read after =>
    rw [List.append_assoc]
    exact .done before read (after.append blank)
  | item opened room read =>
    obtain ⟨spelled, means, fits⟩ := read
    simpa using Behind.item opened room (.intro (spelled.blank blank) means fits)
  | member opened room read =>
    obtain ⟨spelled, unmarked, means, fits⟩ := read
    simpa using Behind.member opened room (.intro (spelled.blank blank) unmarked means fits)

/-! ## One more byte -/

theorem encodeChars_snoc {b : UInt8} {c : Char} (char : Char.ofUInt8 b = c) (ascii : c.toNat < 128)
    (t : List Char) : encodeChars (t ++ [c]) = encodeChars t ++ [b] := by
  subst char
  rw [toNat_ofUInt8] at ascii
  simp [utf8EncodeChar_ofUInt8 ascii]

theorem Reading.seen {frames : List Frame} {mode : Mode} {t : List Char} {b : UInt8} {c : Char}
    (reading : Reading frames mode (t ++ [c])) (char : Char.ofUInt8 b = c)
    (ascii : c.toNat < 128) : Seen frames mode (encodeChars t ++ [b]) :=
  encodeChars_snoc char ascii t ▸ .token reading

theorem Quoted.seen {frames : List Frame} {purpose : Purpose} {t : List Char} {b : UInt8}
    (quoted : Quoted frames purpose t) (char : Char.ofUInt8 b = '"') :
    Seen frames (.string purpose [] .outside) (encodeChars t ++ [b]) := by
  have seen : Seen frames (.string purpose [] .outside) (encodeChars (t ++ ['"']) ++ []) :=
    .string quoted rfl
  rwa [List.append_nil, encodeChars_snoc char (by decide)] at seen

/-- The byte that ends a value. -/
theorem Opened.closed {frames frames' : List Frame} {mode : Mode} {t text : List Char}
    {value : Value} {b : UInt8} {c : Char} (opened : Opened frames t)
    (read : Says frames.length value (text ++ [c]))
    (completed : Json.complete value frames = (frames', mode)) (char : Char.ofUInt8 b = c)
    (ascii : c.toNat < 128) : Seen frames' mode (encodeChars (t ++ text) ++ [b]) := by
  have whole := opened.complete read completed
  rw [← List.append_assoc] at whole
  exact (Reading.behind whole).seen char ascii

theorem Behind.step {frames frames' : List Frame} {mode mode' : Mode} {t : List Char} {b : UInt8}
    {c : Char} (behind : Behind frames mode t) (char : Char.ofUInt8 b = c)
    (stepped : afterValue frames mode c = .ok (frames', mode')) :
    Seen frames' mode' (encodeChars t ++ [b]) := by
  -- White space leaves the mode as it is. Otherwise a comma or the end of the container is next.
  by_cases space : isBlank c
  · have same : frames' = frames ∧ mode' = mode := by
      cases behind <;> simp_all [afterValue]
    obtain ⟨rfl, rfl⟩ := same
    exact (Reading.behind (behind.blank (blank_singleton space))).seen char (ascii_of_isBlank space)
  · cases behind with
    | done => simp [afterValue, space] at stepped
    | @item _ items t text opened room read =>
      simp only [afterValue, if_neg space] at stepped
      split at stepped
      next comma =>
        cases stepped
        subst comma
        have reading := Reading.nextItem (.array (.next opened room read) blank_nil)
        exact Reading.seen (by simpa using reading) char (by decide)
      next =>
        split at stepped
        next closing =>
          obtain ⟨spelled, means, fits⟩ := read
          subst closing
          have read : Says frames.length (.array items.reverse) ('[' :: text ++ [']']) :=
            .intro (.array spelled) (by simp [Tree.value?, means]) (by simp only [Tree.depth]; omega)
          exact opened.closed read (Except.ok.inj stepped) char (by decide)
        next => cases stepped
    | @member _ members t text opened room read =>
      simp only [afterValue, if_neg space] at stepped
      split at stepped
      next comma =>
        cases stepped
        subst comma
        have reading := Reading.nextMember (.next opened room read) blank_nil
        exact Reading.seen (by simpa using reading) char (by decide)
      next =>
        split at stepped
        next closing =>
          obtain ⟨spelled, unmarked, means, fits⟩ := read
          subst closing
          have read : Says frames.length (.object members) ('{' :: text ++ ['}']) :=
            .intro (.object spelled) (by simp [Tree.value?, unmarked, means])
              (by simp only [Tree.depth]; omega)
          exact opened.closed read (Except.ok.inj stepped) char (by decide)
        next => cases stepped

theorem Opened.word {frames : List Frame} {t rest : List Char} {tree : Tree} {value : Value}
    {b : UInt8} {first next : Char} (opened : Opened frames t)
    (spelled : Spells tree (first :: next :: rest)) (means : tree.value? = some value)
    (flat : tree.depth = 0) (ascii : ∀ c ∈ first :: next :: rest, c.toNat < 128)
    (char : Char.ofUInt8 b = first) :
    Seen frames (.word next rest value) (encodeChars t ++ [b]) :=
  Reading.seen (.word opened (opened.scalar spelled means flat) fun c member => ascii c (.tail _ member))
    char (ascii first (by simp))

theorem Opened.begin {frames frames' : List Frame} {mode : Mode} {t : List Char} {b : UInt8}
    {c : Char} (opened : Opened frames t) (char : Char.ofUInt8 b = c)
    (begun : beginValue frames c = .ok (frames', mode)) :
    Seen frames' mode (encodeChars t ++ [b]) := by
  -- One case for each character that a value may begin with.
  unfold beginValue at begun
  split at begun
  next => cases begun; exact opened.word .null rfl rfl (by simp) char
  next => cases begun; exact opened.word .true rfl rfl (by simp) char
  next => cases begun; exact opened.word .false rfl rfl (by simp) char
  next => cases begun; exact Quoted.seen (.value opened) char
  next =>
    split at begun
    next room =>
      cases begun
      exact (Reading.firstItem opened room blank_nil).seen char (by decide)
    next => cases begun
  next =>
    split at begun
    next room =>
      cases begun
      exact (Reading.firstMember opened room blank_nil).seen char (by decide)
    next => cases begun
  next =>
    split at begun
    next scan first =>
      cases begun
      exact (Reading.number opened (by simp [Number.scan?, first, Number.feed?])).seen char
        (Number.isNumberChar_of_begin? first).ascii
    next => cases begun

/-- The text of a number begins as a string. -/
theorem Seen.beginMarked {frames frames' : List Frame} {mode : Mode} {t : List Char} {b : UInt8}
    {c : Char} (reading : Reading frames .markedValue t) (char : Char.ofUInt8 b = c)
    (begun : beginMarked frames c = .ok (frames', mode)) :
    Seen frames' mode (encodeChars t ++ [b]) := by
  unfold Json.beginMarked at begun
  split at begun
  next => cases begun; exact .astray .word
  next => cases begun; exact .astray .word
  next => cases begun; exact .astray .word
  next =>
    cases begun
    cases reading with
    | markedValue opened room named blank => exact Quoted.seen (.number opened room named blank) char
    | behind done => cases done
  next =>
    split at begun
    next => cases begun; exact .astray .number
    next => cases begun

/-- The byte behind a value that ends only with it. -/
theorem Reading.number_step {frames frames' : List Frame} {mode : Mode} {scan : Number.Scan}
    {t text : List Char} {b : UInt8} {c : Char} (opened : Opened frames t)
    (scanned : Number.scan? text = some scan) (char : Char.ofUInt8 b = c)
    (stepped : stepToken frames (.number scan) c = .ok (frames', mode)) :
    Seen frames' mode (encodeChars (t ++ text) ++ [b]) := by
  simp only [stepToken] at stepped
  split at stepped
  next written next moved =>
    cases stepped
    have longer : Number.scan? (text ++ [c]) = some (scan.extend written next) := by
      rw [Number.scan?_append scanned]
      simp only [Number.feed?, moved]
    have reading := Reading.number opened longer
    rw [← List.append_assoc] at reading
    exact reading.seen char (Number.isNumberChar_of_move moved).ascii
  next => cases stepped
  next leaves =>
    exact (opened.complete (opened.number scanned (isComplete_of_leave leaves)) rfl).step char stepped

theorem Reading.blank {frames : List Frame} {mode : Mode} {t w : List Char}
    (reading : Reading frames mode t) (skips : mode.skipsBlank) (blank : Blank w) :
    Reading frames mode (t ++ w) := by
  cases reading with
  | value opened => exact .value (opened.blank blank)
  | firstItem opened room before =>
    simpa using Reading.firstItem opened room (before.append blank)
  | nextItem opened => exact .nextItem (opened.blank blank)
  | firstMember opened room before =>
    simpa using Reading.firstMember opened room (before.append blank)
  | nextMember inside before => simpa using Reading.nextMember inside (before.append blank)
  | afterName inside before spelled after unmarked =>
    simpa using Reading.afterName inside before spelled (after.append blank) unmarked
  | word => cases skips
  | number => cases skips
  | afterMarker opened room before spelled after =>
    simpa using Reading.afterMarker opened room before spelled (after.append blank)
  | markedValue opened room named before =>
    simpa using Reading.markedValue opened room named (before.append blank)
  | afterMarkedValue opened room spelled numeral =>
    simpa using Reading.afterMarkedValue opened room (spelled.blank blank) numeral
  | behind done => exact .behind (done.blank blank)

/-! ### Mode by mode

White space is left out here, since it changes no mode. -/

section Modes

variable {frames frames' : List Frame} {mode : Mode} {t w text : List Char} {b : UInt8} {c : Char}

theorem Reading.firstItem_step (opened : Opened frames t) (room : frames.length < depthLimit)
    (blank : Blank w) (char : Char.ofUInt8 b = c) (dense : ¬isBlank c)
    (stepped : stepToken frames .firstItem c = .ok (frames', mode)) :
    Seen frames' mode (encodeChars (t ++ '[' :: w) ++ [b]) := by
  simp only [stepToken, if_neg dense] at stepped
  split at stepped
  next closing =>
    subst closing
    have read : Says frames.length (.array []) ('[' :: w ++ [']']) :=
      .intro (.emptyArray blank) rfl (by simp only [Tree.depth, depthOfItems]; omega)
    exact opened.closed read (Except.ok.inj stepped) char (by decide)
  next =>
    have inner := Opened.array (.first opened room) blank
    rw [List.append_assoc] at inner
    exact inner.begin char stepped

theorem Reading.firstMember_step (opened : Opened frames t) (room : frames.length < depthLimit)
    (blank : Blank w) (char : Char.ofUInt8 b = c) (dense : ¬isBlank c)
    (stepped : stepToken frames .firstMember c = .ok (frames', mode)) :
    Seen frames' mode (encodeChars (t ++ '{' :: w) ++ [b]) := by
  simp only [stepToken, if_neg dense] at stepped
  split at stepped
  next closing =>
    subst closing
    have read : Says frames.length (.object []) ('{' :: w ++ ['}']) :=
      .intro (.emptyObject blank) rfl (by simp only [Tree.depth, depthOfMembers]; omega)
    exact opened.closed read (Except.ok.inj stepped) char (by decide)
  next =>
    split at stepped
    next quote =>
      cases stepped
      have quoted := Quoted.name (.first opened room) blank
      rw [List.append_assoc] at quoted
      exact quoted.seen (char.trans quote)
    next => cases stepped

theorem Reading.nextMember_step {members : Members} (inside : InObject frames members t)
    (blank : Blank w) (char : Char.ofUInt8 b = c) (dense : ¬isBlank c)
    (stepped : stepToken frames (.nextMember members) c = .ok (frames', mode)) :
    Seen frames' mode (encodeChars (t ++ w) ++ [b]) := by
  simp only [stepToken, if_neg dense] at stepped
  split at stepped
  next => cases stepped
  next =>
    split at stepped
    next quote =>
      cases stepped
      exact (Quoted.name inside blank).seen (char.trans quote)
    next => cases stepped

theorem Reading.word_step {value : Value} {next : Char} {rest : List Char}
    (opened : Opened frames t) (whole : Says frames.length value (text ++ next :: rest))
    (ascii : ∀ c ∈ next :: rest, c.toNat < 128) (char : Char.ofUInt8 b = c)
    (stepped : stepToken frames (.word next rest value) c = .ok (frames', mode)) :
    Seen frames' mode (encodeChars (t ++ text) ++ [b]) := by
  simp only [stepToken] at stepped
  split at stepped
  next same =>
    subst same
    obtain ⟨own, others⟩ := List.forall_mem_cons.1 ascii
    cases rest with
    | nil => exact opened.closed whole (Except.ok.inj stepped) char own
    | cons next' rest =>
      cases stepped
      have longer : Reading frames (.word next' rest value) (t ++ (text ++ [c])) :=
        .word opened (by simpa using whole) others
      rw [← List.append_assoc] at longer
      exact longer.seen char own
  next => cases stepped

theorem Reading.afterMarkedValue_step {s : String} {n : Numeral} (opened : Opened frames t)
    (room : frames.length < depthLimit) (spelled : SpellsMembers [(numberName, .string s)] text)
    (numeral : s.toList = n.text) (char : Char.ofUInt8 b = c) (dense : ¬isBlank c)
    (stepped : stepToken frames (.afterMarkedValue (String.ofList n.normal.text)) c =
      .ok (frames', mode)) :
    Seen frames' mode (encodeChars (t ++ '{' :: text) ++ [b]) := by
  simp only [stepToken, if_neg dense] at stepped
  split at stepped
  next closing =>
    subst closing
    have means : (Tree.object [(numberName, .string s)]).value? =
        some (.number (String.ofList n.normal.text)) := by
      simp [Tree.value?, IsMarked, markedValue?, numeral, Numeral.ofText?_text, Numeral.toValue]
    have read : Says frames.length _ ('{' :: text ++ ['}']) :=
      .intro (.object spelled) means (by simp only [Tree.depth, depthOfMembers]; omega)
    exact opened.closed read (Except.ok.inj stepped) char (by decide)
  next => split at stepped <;> cases stepped

end Modes

/-- A character that white space may stand in front of. -/
theorem Reading.step_of_not_isBlank {frames frames' : List Frame} {mode mode' : Mode}
    {t : List Char} {b : UInt8} {c : Char} (reading : Reading frames mode t)
    (char : Char.ofUInt8 b = c) (dense : mode.skipsBlank → ¬isBlank c)
    (stepped : stepToken frames mode c = .ok (frames', mode')) :
    Seen frames' mode' (encodeChars t ++ [b]) := by
  cases reading with
  -- By the mode that the reader is in; those with more than one way on have a lemma of their own.
  | value opened => exact opened.begin char (by simpa only [stepToken, if_neg (dense rfl)] using stepped)
  | firstItem opened room blank =>
    exact Reading.firstItem_step opened room blank char (dense rfl) stepped
  | nextItem opened =>
    simp only [stepToken, if_neg (dense rfl)] at stepped
    split at stepped
    next => cases stepped
    next => exact opened.begin char stepped
  | firstMember opened room blank =>
    exact Reading.firstMember_step opened room blank char (dense rfl) stepped
  | nextMember inside blank => exact Reading.nextMember_step inside blank char (dense rfl) stepped
  | afterName inside before spelled after unmarked =>
    simp only [stepToken, if_neg (dense rfl)] at stepped
    split at stepped
    next colon =>
      cases stepped
      subst colon
      have opened := Opened.object inside (.intro before spelled after) blank_nil unmarked
      exact Reading.seen (.value (by simpa using opened)) char (by decide)
    next => cases stepped
  | word opened whole ascii => exact Reading.word_step opened whole ascii char stepped
  | number opened scanned => exact Reading.number_step opened scanned char stepped
  | afterMarker opened room before spelled after =>
    simp only [stepToken, if_neg (dense rfl)] at stepped
    split at stepped
    next colon =>
      cases stepped
      subst colon
      have reading := Reading.markedValue opened room (.intro before spelled after) blank_nil
      exact Reading.seen (by simpa using reading) char (by decide)
    next => cases stepped
  | markedValue opened room named blank =>
    exact Seen.beginMarked (.markedValue opened room named blank) char
      (by simpa only [stepToken, if_neg (dense rfl)] using stepped)
  | afterMarkedValue opened room spelled numeral =>
    exact Reading.afterMarkedValue_step opened room spelled numeral char (dense rfl) stepped
  | behind done =>
    exact done.step char (by cases done <;> simpa only [stepToken] using stepped)

theorem Reading.step {frames frames' : List Frame} {mode mode' : Mode} {t : List Char} {b : UInt8}
    {c : Char} (reading : Reading frames mode t) (char : Char.ofUInt8 b = c)
    (stepped : stepToken frames mode c = .ok (frames', mode')) :
    Seen frames' mode' (encodeChars t ++ [b]) := by
  by_cases blank : mode.skipsBlank ∧ isBlank c
  · rw [stepToken_of_isBlank blank.1 blank.2] at stepped
    cases stepped
    exact (reading.blank blank.1 (blank_singleton blank.2)).seen char (ascii_of_isBlank blank.2)
  · exact reading.step_of_not_isBlank char (fun skips space => blank ⟨skips, space⟩) stepped

/-! ## Strings -/

/-- Members that were read are never lost. -/
theorem members?_ne_some_nil {done : Members} {trees : List (String × Tree)}
    (present : done ≠ [] ∨ trees ≠ []) : members? done trees ≠ some [] := by
  induction trees generalizing done with
  | nil => simpa [members?] using present
  | cons member trees ih =>
    simp only [members?]
    split
    next value _ => exact ih (.inl (Members.insert_ne_nil done member.1 value))
    next => simp

theorem SaysMembers.ne_nil {n : Nat} {members : Members} {text : List Char}
    (read : SaysMembers n members text) : members ≠ [] := by
  obtain ⟨spelled, -, means, -⟩ := read
  rintro rfl
  refine members?_ne_some_nil (.inr ?_) means
  cases spelled <;> simp

theorem Reading.isString {frames : List Frame} {mode : Mode} {t : List Char}
    (reading : Reading frames mode t) : mode.isString = false := by
  cases reading with
  | behind done => cases done <;> rfl
  | _ => rfl

theorem Seen.endString {frames frames' : List Frame} {purpose : Purpose} {t : List Char}
    {read body : Bytes} {behind : Position} {mode : Mode} {b : UInt8}
    (quoted : Quoted frames purpose t) (fed : Escape.feed? [] .outside body = some (read, .outside))
    (quote : Char.ofUInt8 b = '"')
    (ended : endString frames purpose read behind = .ok (frames', mode)) :
    Seen frames' mode (encodeChars (t ++ ['"']) ++ body ++ [b]) := by
  obtain ⟨s, decoded, next⟩ := endString_eq_ok_iff.1 ended
  obtain ⟨text, rfl, body⟩ := exists_spelled_of_feed? fed decoded
  have spelled : SpellsString (String.ofList s) ('"' :: text ++ ['"']) := .intro (by simpa using body)
  rw [← encodeChars_append]
  cases quoted with
  | value opened =>
    have complete := opened.complete (opened.scalar (.string spelled) rfl rfl) next
    exact Reading.seen (.behind (by simpa using complete)) quote (by decide)
  | @name members t w inside blank =>
    cases next
    split
    next marker =>
      obtain ⟨rfl, named⟩ := marker
      cases inside with
      | first opened room =>
        have reading := Reading.afterMarker opened room blank (named ▸ spelled) blank_nil
        exact Reading.seen (by simpa using reading) quote (by decide)
      -- Behind a comma there are members already, so the name is not taken for the marker.
      | next _ _ read => exact absurd rfl read.ne_nil
    next unmarked =>
      have reading := Reading.afterName inside blank spelled blank_nil
        fun first named => unmarked ⟨first, named⟩
      exact Reading.seen (by simpa using reading) quote (by decide)
  | @number t head w opened room named blank =>
    obtain ⟨n, same, next⟩ := next
    cases next
    have reading := Reading.afterMarkedValue opened room
      (.last named blank (.string spelled) blank_nil) same
    exact Reading.seen (by simpa using reading) quote (by decide)

/-! ## Steps and runs -/

/-- Once astray, the reader stays so until the document is refused. -/
theorem Astray.step {s s' : State} {b : UInt8} (astray : Astray s.mode)
    (stepped : s.step b = .ok s') : Astray s'.mode := by
  obtain ⟨p, frames, mode⟩ := s
  cases astray with
  | word =>
    obtain ⟨frames', mode', moved, rfl⟩ := (State.step_token_iff rfl).1 stepped
    simp only [stepToken] at moved
    split at moved
    next => split at moved <;> cases moved; exact .word
    next => cases moved
  | number =>
    obtain ⟨frames', mode', moved, rfl⟩ := (State.step_token_iff rfl).1 stepped
    simp only [stepToken] at moved
    split at moved <;> cases moved
    exact .number

theorem Astray.finish_ne_ok {s : State} {value : Value} (astray : Astray s.mode) :
    s.finish ≠ .ok value := by
  intro ends
  obtain ⟨p, frames, mode⟩ := s
  rcases State.finish_eq_ok ends with ends | ⟨scan, rfl, -, -⟩
  · cases astray with
    | word => cases ends
    | number =>
      simp only [Mode.finish] at ends
      split at ends <;> cases ends
  · cases astray

theorem Seen.step {s s' : State} {bytes : Bytes} {b : UInt8} (seen : Seen s.frames s.mode bytes)
    (stepped : s.step b = .ok s') : Seen s'.frames s'.mode (bytes ++ [b]) := by
  obtain ⟨p, frames, mode⟩ := s
  cases seen with
  | token reading =>
    obtain ⟨frames', mode', moved, rfl⟩ := (State.step_token_iff reading.isString).1 stepped
    exact reading.step rfl moved
  | @string purpose t read body escape quoted fed =>
    -- A quote outside an escape ends the string, and any other byte belongs to it.
    by_cases ends : escape = .outside ∧ Char.ofUInt8 b = '"'
    · obtain ⟨rfl, quote⟩ := ends
      obtain ⟨frames', mode', ended, rfl⟩ := (State.step_quote_iff quote).1 stepped
      exact .endString quoted fed quote ended
    · have goesOn : escape = .outside → Char.ofUInt8 b ≠ '"' := fun outside quote =>
        ends ⟨outside, quote⟩
      obtain ⟨read', escape', moved, rfl⟩ := (State.step_string_iff goesOn).1 stepped
      rw [List.append_assoc]
      refine .string quoted ?_
      rw [Escape.feed?_append, fed]
      change Escape.feed? read escape [b] = _
      rw [feed?_cons goesOn, moved]
      rfl
  | astray astray => exact .astray (astray.step stepped)

theorem Seen.run {s s' : State} {bytes more : Bytes} (seen : Seen s.frames s.mode bytes)
    (ran : s.run more = .ok s') : Seen s'.frames s'.mode (bytes ++ more) := by
  induction more generalizing s bytes with
  | nil =>
    cases ran
    rwa [List.append_nil]
  | cons b rest ih =>
    simp only [State.run] at ran
    split at ran
    next next stepped =>
      have longer := ih (seen.step stepped) ran
      rwa [List.append_assoc] at longer
    next => cases ran

/-- A byte string that is derived from the grammar and nests no deeper than the limit. -/
inductive IsDocument (tree : Tree) : Bytes → Prop
  | intro {text : List Char} (spelled : SpellsDocument tree text) (fits : tree.depth ≤ depthLimit) :
      IsDocument tree (encodeChars text)

theorem Behind.document {frames : List Frame} {mode : Mode} {t : List Char} {value : Value}
    (behind : Behind frames mode t) (ends : mode.finish = .ok value) :
    ∃ tree, IsDocument tree (encodeChars t) ∧ tree.value? = some value := by
  cases behind with
  | done before read after =>
    obtain ⟨spelled, means, fits⟩ := read
    cases ends
    exact ⟨_, .intro (.intro before spelled after) fits, means⟩
  | item => cases ends
  | member => cases ends

theorem Seen.finish {s : State} {bytes : Bytes} {value : Value}
    (seen : Seen s.frames s.mode bytes) (ends : s.finish = .ok value) :
    ∃ tree, IsDocument tree bytes ∧ tree.value? = some value := by
  have whole := ends
  obtain ⟨p, frames, mode⟩ := s
  -- Either a value is complete behind the last byte, or a number ends with the document.
  rcases State.finish_eq_ok ends with ends | ⟨scan, rfl, complete, ends⟩
  · cases seen with
    | token reading =>
      cases reading with
      | behind done => exact done.document ends
      | _ => cases ends
    | string => cases ends
    | astray astray => exact absurd whole astray.finish_ne_ok
  · cases seen with
    | token reading =>
      cases reading with
      | number opened scanned =>
        exact (opened.complete (opened.number scanned complete) rfl).document ends
      | behind done => cases done
    | astray astray => cases astray

/-- Every document that is accepted is in the grammar, and its value is that of its tree. -/
theorem exists_tree_of_parse {document : Bytes} {value : Value}
    (accepted : parse document = .ok value) :
    ∃ tree, IsDocument tree document ∧ tree.value? = some value := by
  unfold parse at accepted
  split at accepted
  next s ran =>
    have seen : Seen State.start.frames State.start.mode [] := .token (.value (.top blank_nil))
    exact (seen.run ran).finish accepted
  next => cases accepted

end VectorFetch.Json

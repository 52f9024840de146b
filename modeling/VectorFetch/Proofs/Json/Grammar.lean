import VectorFetch.Json.Reader
import VectorFetch.Proofs.Json.Numeral
import VectorFetch.Proofs.Json.Value

/-!
# The grammar of JSON

The grammar relates texts to trees. It is written without the reader, from the rules of
the format.

* `Tree`: what a text says. Members stand as often and in the order in which they are
  written, and numbers as they are spelled.
* `SpellsText`: what stands between the quotes of a string.
* `Spells`: `Spells tree text` says that `text` is derived from the grammar and says `tree`.
* `Tree.value?`: the value of a tree. An object that stands for a number has one only if
  it holds the text of a number and nothing else.
* `Tree.depth`: how deep arrays and objects nest.
-/

namespace VectorFetch.Json

/-! ## Characters of strings -/

/-- The value of a hexadecimal digit of either case. -/
def hexDigitValue? (c : Char) : Option Nat :=
  if '0' ≤ c ∧ c ≤ '9' then some (c.toNat - 48)
  else if 'a' ≤ c ∧ c ≤ 'f' then some (c.toNat - 87)
  else if 'A' ≤ c ∧ c ≤ 'F' then some (c.toNat - 55)
  else none

/-- The number that four hexadecimal digits stand for. -/
def codeUnit? : List Char → Option Nat
  | [a, b, c, d] =>
    match hexDigitValue? a, hexDigitValue? b, hexDigitValue? c, hexDigitValue? d with
    | some p, some q, some r, some s => some (4096 * p + 256 * q + 16 * r + s)
    | _, _, _, _ => none
  | _ => none

/-- The character of an escape with one letter. -/
def escapedChar? (c : Char) : Option Char :=
  match c with
  | '"' => some '"'
  | '\\' => some '\\'
  | '/' => some '/'
  | 'b' => some '\x08'
  | 'f' => some '\x0c'
  | 'n' => some '\n'
  | 'r' => some '\r'
  | 't' => some '\t'
  | _ => none

/-- A first half of a surrogate pair. -/
def IsHighSurrogate (n : Nat) : Prop := 0xD800 ≤ n ∧ n ≤ 0xDBFF

/-- A second half of a surrogate pair. -/
def IsLowSurrogate (n : Nat) : Prop := 0xDC00 ≤ n ∧ n ≤ 0xDFFF

instance (n : Nat) : Decidable (IsHighSurrogate n) := inferInstanceAs (Decidable (_ ∧ _))

instance (n : Nat) : Decidable (IsLowSurrogate n) := inferInstanceAs (Decidable (_ ∧ _))

theorem IsHighSurrogate.not_low {n : Nat} (high : IsHighSurrogate n) : ¬IsLowSurrogate n :=
  fun low => Nat.not_le_of_lt (Nat.lt_succ_of_le high.2) low.1

/-- The character of a surrogate pair. -/
def pairedChar (high low : Nat) : Char :=
  Char.ofNat (0x10000 + (high - 0xD800) * 0x400 + (low - 0xDC00))

/-- `SpellsEscape c text`: the text is an escape of the character. -/
inductive SpellsEscape : Char → List Char → Prop
  | letter {x c : Char} (escaped : escapedChar? x = some c) : SpellsEscape c ['\\', x]
  | unit {digits : List Char} {n : Nat} (code : codeUnit? digits = some n)
      (high : ¬IsHighSurrogate n) (low : ¬IsLowSurrogate n) :
      SpellsEscape (Char.ofNat n) ('\\' :: 'u' :: digits)
  | pair {digits digits' : List Char} {m n : Nat} (first : codeUnit? digits = some m)
      (high : IsHighSurrogate m) (second : codeUnit? digits' = some n) (low : IsLowSurrogate n) :
      SpellsEscape (pairedChar m n) ('\\' :: 'u' :: digits ++ '\\' :: 'u' :: digits')

/-- A character that may stand in a string as it is. -/
structure IsPlain (c : Char) : Prop where
  notControl : 0x20 ≤ c.toNat
  notQuote : c ≠ '"'
  notBackslash : c ≠ '\\'

/-- `SpellsText s text`: between quotes, the text stands for the characters `s`. -/
inductive SpellsText : List Char → List Char → Prop
  | nil : SpellsText [] []
  | plain {c : Char} {s text : List Char} (plain : IsPlain c) (rest : SpellsText s text) :
      SpellsText (c :: s) (c :: text)
  | escape {c : Char} {escape s text : List Char} (first : SpellsEscape c escape)
      (rest : SpellsText s text) : SpellsText (c :: s) (escape ++ text)

inductive SpellsString (s : String) : List Char → Prop
  | intro {text : List Char} (body : SpellsText s.toList text) : SpellsString s ('"' :: text ++ ['"'])

/-! ## Trees -/

/-- What a text says. -/
inductive Tree where
  | null
  | bool (value : Bool)
  | number (n : Numeral)
  | string (s : String)
  | array (items : List Tree)
  | object (members : List (String × Tree))

def Blank (text : List Char) : Prop := ∀ c ∈ text, c = ' ' ∨ c = '\t' ∨ c = '\n' ∨ c = '\r'

/-- The name of a member and the colon behind it. -/
inductive SpellsName (name : String) : List Char → Prop
  | intro {w text w' : List Char} (before : Blank w) (spelled : SpellsString name text)
      (behind : Blank w') : SpellsName name (w ++ text ++ w' ++ [':'])

mutual

/-- `Spells tree text`: the text is derived from the grammar and says the tree. -/
inductive Spells : Tree → List Char → Prop
  | null : Spells .null ['n', 'u', 'l', 'l']
  | true : Spells (.bool true) ['t', 'r', 'u', 'e']
  | false : Spells (.bool false) ['f', 'a', 'l', 's', 'e']
  | number (n : Numeral) : Spells (.number n) n.text
  | string {s : String} {text : List Char} (spelled : SpellsString s text) : Spells (.string s) text
  | emptyArray {w : List Char} (blank : Blank w) : Spells (.array []) ('[' :: w ++ [']'])
  | array {items : List Tree} {text : List Char} (spelled : SpellsItems items text) :
      Spells (.array items) ('[' :: text ++ [']'])
  | emptyObject {w : List Char} (blank : Blank w) : Spells (.object []) ('{' :: w ++ ['}'])
  | object {members : List (String × Tree)} {text : List Char}
      (spelled : SpellsMembers members text) : Spells (.object members) ('{' :: text ++ ['}'])

/-- One item or more, with commas between them. -/
inductive SpellsItems : List Tree → List Char → Prop
  | last {item : Tree} {w text w' : List Char} (before : Blank w) (spelled : Spells item text)
      (behind : Blank w') : SpellsItems [item] (w ++ text ++ w')
  | cons {item : Tree} {items : List Tree} {w text w' more : List Char} (before : Blank w)
      (spelled : Spells item text) (behind : Blank w') (rest : SpellsItems items more) :
      SpellsItems (item :: items) (w ++ text ++ w' ++ ',' :: more)

/-- One member or more, with commas between them. -/
inductive SpellsMembers : List (String × Tree) → List Char → Prop
  | last {name : String} {value : Tree} {head w text w' : List Char} (named : SpellsName name head)
      (before : Blank w) (spelled : Spells value text) (behind : Blank w') :
      SpellsMembers [(name, value)] (head ++ w ++ text ++ w')
  | cons {name : String} {value : Tree} {members : List (String × Tree)}
      {head w text w' more : List Char} (named : SpellsName name head) (before : Blank w)
      (spelled : Spells value text) (behind : Blank w') (rest : SpellsMembers members more) :
      SpellsMembers ((name, value) :: members) (head ++ w ++ text ++ w' ++ ',' :: more)

end

/-- A whole document: a value with white space around it. -/
inductive SpellsDocument (tree : Tree) : List Char → Prop
  | intro {w text w' : List Char} (before : Blank w) (spelled : Spells tree text)
      (behind : Blank w') : SpellsDocument tree (w ++ text ++ w')

/-! ## What a tree means -/

def Numeral.toValue (n : Numeral) : Value := .number (String.ofList n.normal.text)

/-- Whether the members are those of an object that stands for a number. -/
def IsMarked (members : List (String × Tree)) : Prop :=
  members.head?.map Prod.fst = some numberName

instance (members : List (String × Tree)) : Decidable (IsMarked members) :=
  inferInstanceAs (Decidable (_ = _))

/-- The number of an object that stands for one. -/
def markedValue? : List (String × Tree) → Option Value
  | [(_, .string s)] => (Numeral.ofText? s.toList).map Numeral.toValue
  | _ => none

mutual

def Tree.value? : Tree → Option Value
  | .null => some .null
  | .bool b => some (.bool b)
  | .number n => some n.toValue
  | .string s => some (.string s)
  | .array items => (values? items).map .array
  | .object members =>
    if IsMarked members then markedValue? members else (members? [] members).map .object

def values? : List Tree → Option (List Value)
  | [] => some []
  | item :: items =>
    match item.value?, values? items with
    | some value, some values => some (value :: values)
    | _, _ => none

/-- The members with these in front of them. -/
def members? (done : Members) : List (String × Tree) → Option Members
  | [] => some done
  | (name, tree) :: members =>
    match tree.value? with
    | some value => members? (done.insert name value) members
    | none => none

end

mutual

def Tree.depth : Tree → Nat
  | .array items => depthOfItems items + 1
  | .object members => depthOfMembers members + 1
  | .null | .bool _ | .number _ | .string _ => 0

def depthOfItems : List Tree → Nat
  | [] => 0
  | item :: items => max item.depth (depthOfItems items)

def depthOfMembers : List (String × Tree) → Nat
  | [] => 0
  | (_, tree) :: members => max tree.depth (depthOfMembers members)

end

/-! ## White space -/

theorem isBlank_iff {c : Char} : isBlank c ↔ c = ' ' ∨ c = '\t' ∨ c = '\n' ∨ c = '\r' := by
  simp [isBlank, or_assoc]

theorem blank_nil : Blank [] := by simp [Blank]

theorem Blank.append {w w' : List Char} (blank : Blank w) (blank' : Blank w') :
    Blank (w ++ w') := by
  intro c member
  rcases List.mem_append.1 member with member | member
  · exact blank c member
  · exact blank' c member

theorem blank_singleton {c : Char} (space : isBlank c) : Blank [c] := by
  simpa [Blank] using isBlank_iff.1 space

/-! ## One more item or member -/

theorem values?_snoc {items : List Tree} {values : List Value} {item : Tree} {value : Value}
    (front : values? items = some values) (last : item.value? = some value) :
    values? (items ++ [item]) = some (values ++ [value]) := by
  induction items generalizing values with
  | nil =>
    cases front
    simp [values?, last]
  | cons first items ih =>
    simp only [values?] at front
    split at front
    next v vs read rest =>
      cases front
      simp [values?, read, ih rest]
    next => cases front

theorem members?_snoc {done members : Members} {trees : List (String × Tree)} {name : String}
    {tree : Tree} {value : Value} (front : members? done trees = some members)
    (last : tree.value? = some value) :
    members? done (trees ++ [(name, tree)]) = some (members.insert name value) := by
  induction trees generalizing done with
  | nil =>
    cases front
    simp [members?, last]
  | cons first trees ih =>
    obtain ⟨n, t⟩ := first
    simp only [members?] at front
    split at front
    next v read => simp [members?, read, ih front]
    next => cases front

theorem depthOfItems_snoc (items : List Tree) (item : Tree) :
    depthOfItems (items ++ [item]) = max (depthOfItems items) item.depth := by
  induction items with
  | nil => simp [depthOfItems]
  | cons first items ih => simp [depthOfItems, ih, Nat.max_assoc]

theorem depthOfMembers_snoc (members : List (String × Tree)) (name : String) (tree : Tree) :
    depthOfMembers (members ++ [(name, tree)]) = max (depthOfMembers members) tree.depth := by
  induction members with
  | nil => simp [depthOfMembers]
  | cons first members ih => simp [depthOfMembers, ih, Nat.max_assoc]

theorem SpellsItems.snoc {items : List Tree} {item : Tree} {more w text w' : List Char}
    (front : SpellsItems items more) (before : Blank w) (spelled : Spells item text)
    (behind : Blank w') : SpellsItems (items ++ [item]) (more ++ ',' :: (w ++ text ++ w')) := by
  induction items generalizing more with
  | nil => cases front
  | cons first items ih =>
    cases front with
    | last blank first blank' => exact .cons blank first blank' (.last before spelled behind)
    | cons blank first blank' rest => simpa using SpellsItems.cons blank first blank' (ih rest)

theorem SpellsMembers.snoc {members : List (String × Tree)} {name : String} {tree : Tree}
    {more head w text w' : List Char} (front : SpellsMembers members more)
    (named : SpellsName name head) (before : Blank w) (spelled : Spells tree text)
    (behind : Blank w') :
    SpellsMembers (members ++ [(name, tree)]) (more ++ ',' :: (head ++ w ++ text ++ w')) := by
  induction members generalizing more with
  | nil => cases front
  | cons first members ih =>
    cases front with
    | last named' blank first blank' =>
      exact .cons named' blank first blank' (.last named before spelled behind)
    | cons named' blank first blank' rest =>
      simpa using SpellsMembers.cons named' blank first blank' (ih rest)

end VectorFetch.Json

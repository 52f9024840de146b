import VectorFetch.Json.Layout
import VectorFetch.Proofs.Json.Completeness

/-!
# Documents that are laid out

* `Readable`: the values that can be read. Their numbers have signs in their exponents,
  and the names in their objects stand once.
* `Value.tree`: what the document of a value says.
* `spells_fragments`: the pieces of a document are derived from the grammar.
* `parse_pretty`: a document that is laid out is read as its value.
-/

namespace VectorFetch.Json

open Utf8

/-! ## Values that can be read -/

/-- A value that some document has. -/
inductive Readable : Value → Prop
  | null : Readable .null
  | bool (b : Bool) : Readable (.bool b)
  | number {n : Numeral} (normal : n.normal = n) : Readable (.number (String.ofList n.text))
  | string (s : String) : Readable (.string s)
  | array {items : List Value} (each : ∀ item ∈ items, Readable item) : Readable (.array items)
  | object {members : Members} (each : ∀ member ∈ members, Readable member.2)
      (distinct : (members.map Prod.fst).Nodup)
      (unmarked : members.head?.map Prod.fst ≠ some numberName) : Readable (.object members)

theorem readable_toValue (n : Numeral) : Readable n.toValue := .number n.normal_normal

theorem head?_members? {done members : Members} {trees : List (String × Tree)}
    (read : members? done trees = some members) (present : done ≠ []) :
    members.head?.map Prod.fst = done.head?.map Prod.fst := by
  induction trees generalizing done with
  | nil => cases read; rfl
  | cons first trees ih =>
    obtain ⟨value, -, rest⟩ := members?_cons read
    rw [ih rest (Members.insert_ne_nil _ _ _), Members.head?_insert present]

theorem unmarked_members? {members : Members} {trees : List (String × Tree)}
    (read : members? [] trees = some members) (unmarked : ¬IsMarked trees) :
    members.head?.map Prod.fst ≠ some numberName := by
  cases trees with
  | nil => cases read; simp
  | cons first trees =>
    obtain ⟨value, -, rest⟩ := members?_cons read
    rw [head?_members? rest (Members.insert_ne_nil _ _ _)]
    simpa [IsMarked, Members.insert] using unmarked

theorem nodup_members? {done members : Members} {trees : List (String × Tree)}
    (read : members? done trees = some members) (distinct : (done.map Prod.fst).Nodup) :
    (members.map Prod.fst).Nodup := by
  induction trees generalizing done with
  | nil => cases read; exact distinct
  | cons first trees ih =>
    obtain ⟨value, -, rest⟩ := members?_cons read
    refine ih rest ?_
    rw [Members.names_insert]
    split
    next => exact distinct
    next new =>
      rw [List.nodup_append]
      exact ⟨distinct, by simp, by rintro a present b last rfl; simp_all⟩

mutual

theorem readable_of_value? {tree : Tree} {value : Value} (means : tree.value? = some value) :
    Readable value := by
  cases tree with
  | null => cases means; exact .null
  | bool b => cases means; exact .bool b
  | number n => cases means; exact readable_toValue n
  | string s => cases means; exact .string s
  | array items =>
    obtain ⟨values, read, rfl⟩ := Option.map_eq_some_iff.1 means
    exact .array (readable_of_values? read)
  | object members =>
    simp only [Tree.value?] at means
    split at means
    next marked =>
      -- The table that stands for a number is not read as a table.
      obtain ⟨s, n, -, -, rfl⟩ := markedValue?_eq_some marked means
      exact readable_toValue n
    next unmarked =>
      obtain ⟨values, read, rfl⟩ := Option.map_eq_some_iff.1 means
      exact .object (readable_of_members? read (by simp)) (nodup_members? read .nil)
        (unmarked_members? read unmarked)
termination_by sizeOf tree

theorem readable_of_values? {trees : List Tree} {values : List Value}
    (means : values? trees = some values) : ∀ value ∈ values, Readable value := by
  cases trees with
  | nil => cases means; simp
  | cons tree trees =>
    obtain ⟨first, rest, read, readRest, rfl⟩ := values?_cons means
    intro value member
    rcases List.mem_cons.1 member with rfl | member
    · exact readable_of_value? read
    · exact readable_of_values? readRest value member
termination_by sizeOf trees

theorem readable_of_members? {trees : List (String × Tree)} {done members : Members}
    (means : members? done trees = some members) (before : ∀ member ∈ done, Readable member.2) :
    ∀ member ∈ members, Readable member.2 := by
  match trees with
  | [] => cases means; exact before
  | (name, tree) :: trees =>
    obtain ⟨first, read, rest⟩ := members?_cons means
    refine readable_of_members? rest fun member present => ?_
    rcases Members.eq_or_mem_of_mem_insert present with rfl | present
    · exact readable_of_value? read
    · exact before member present
termination_by sizeOf trees

end

/-! ## What the document of a value says -/

mutual

/-- What the document of a value says. -/
def Value.tree : Value → Tree
  | .null => .null
  | .bool b => .bool b
  | .number text => ((Numeral.ofText? text.toList).map .number).getD .null
  | .string s => .string s
  | .array items => .array (treesOfItems items)
  | .object members => .object (treesOfMembers members)

def treesOfItems : List Value → List Tree
  | [] => []
  | item :: items => item.tree :: treesOfItems items

def treesOfMembers : List (String × Value) → List (String × Tree)
  | [] => []
  | (name, value) :: members => (name, value.tree) :: treesOfMembers members

end

theorem tree_number (n : Numeral) : (Value.number (String.ofList n.text)).tree = .number n := by
  simp [Value.tree, Numeral.ofText?_text]

theorem tree_toValue (n : Numeral) : n.toValue.tree = .number n.normal := tree_number n.normal

theorem head?_treesOfMembers (members : Members) :
    (treesOfMembers members).head?.map Prod.fst = members.head?.map Prod.fst := by
  cases members <;> rfl

theorem values?_treesOfItems {items : List Value}
    (each : ∀ item ∈ items, item.tree.value? = some item) :
    values? (treesOfItems items) = some items := by
  induction items with
  | nil => rfl
  | cons item items ih =>
    simp [treesOfItems, values?, each item (by simp), ih fun v member => each v (by simp [member])]

theorem members?_treesOfMembers {done members : Members}
    (each : ∀ member ∈ members, member.2.tree.value? = some member.2)
    (distinct : ((done ++ members).map Prod.fst).Nodup) :
    members? done (treesOfMembers members) = some (done ++ members) := by
  induction members generalizing done with
  | nil => simp [treesOfMembers, members?]
  | cons first members ih =>
    obtain ⟨name, value⟩ := first
    have new : name ∉ done.map Prod.fst := by
      rw [List.map_append, List.nodup_append] at distinct
      exact fun present => distinct.2.2 name present name (by simp) rfl
    have longer : members? (done.insert name value) (treesOfMembers members) =
        some (done.insert name value ++ members) :=
      ih (fun m later => each m (.tail _ later))
        (by rw [Members.insert_of_not_mem value new]; simpa using distinct)
    simp only [treesOfMembers, members?, each _ (.head _), longer]
    rw [Members.insert_of_not_mem value new, List.append_assoc]
    rfl

/-- A value is the value of what its document says. -/
theorem value?_tree {value : Value} (readable : Readable value) : value.tree.value? = some value := by
  induction readable with
  | null => rfl
  | bool b => rfl
  | @number n normal => rw [tree_number, Tree.value?, Numeral.toValue, normal]
  | string s => rfl
  | array _ ih => simp [Value.tree, Tree.value?, values?_treesOfItems ih]
  | @object members _ distinct unmarked ih =>
    -- The marker is not first here, so what was laid out is read as an object again.
    have unmarked : ¬IsMarked (treesOfMembers members) := by rwa [IsMarked, head?_treesOfMembers]
    have read : members? [] (treesOfMembers members) = some ([] ++ members) :=
      members?_treesOfMembers ih (by simpa using distinct)
    simp only [Value.tree, Tree.value?, if_neg unmarked, read]
    rfl

/-! ## Depth -/

theorem depthOfMembers_insert (members : Members) (name : String) (value : Value) :
    depthOfMembers (treesOfMembers (members.insert name value)) ≤
      max (depthOfMembers (treesOfMembers members)) value.tree.depth := by
  induction members with
  | nil => simp [Members.insert, treesOfMembers, depthOfMembers]
  | cons first rest ih =>
    obtain ⟨n, v⟩ := first
    simp only [Members.insert]
    split <;> simp only [treesOfMembers, depthOfMembers] at * <;> omega

mutual

/-- A value nests no deeper than the document that it is read from. -/
theorem depth_tree_le {tree : Tree} {value : Value} (means : tree.value? = some value) :
    value.tree.depth ≤ tree.depth := by
  cases tree with
  | null => cases means; exact Nat.le_refl 0
  | bool b => cases means; exact Nat.le_refl 0
  | number n =>
    cases means
    rw [tree_toValue]
    exact Nat.le_refl 0
  | string s => cases means; exact Nat.le_refl 0
  | array items =>
    obtain ⟨values, read, rfl⟩ := Option.map_eq_some_iff.1 means
    exact Nat.succ_le_succ (depthOfItems_le read)
  | object members =>
    simp only [Tree.value?] at means
    split at means
    next marked =>
      obtain ⟨s, n, -, -, rfl⟩ := markedValue?_eq_some marked means
      -- An object that stands for a number becomes flat.
      rw [tree_toValue]
      exact Nat.zero_le _
    next =>
      obtain ⟨values, read, rfl⟩ := Option.map_eq_some_iff.1 means
      have le := depthOfMembers_le read
      simp only [treesOfMembers, depthOfMembers, Nat.zero_max] at le
      exact Nat.succ_le_succ le
termination_by sizeOf tree

theorem depthOfItems_le {trees : List Tree} {values : List Value}
    (means : values? trees = some values) :
    depthOfItems (treesOfItems values) ≤ depthOfItems trees := by
  cases trees with
  | nil => cases means; exact Nat.le_refl 0
  | cons tree trees =>
    obtain ⟨first, rest, read, readRest, rfl⟩ := values?_cons means
    have first := depth_tree_le read
    have others := depthOfItems_le readRest
    simp only [treesOfItems, depthOfItems]
    omega
termination_by sizeOf trees

theorem depthOfMembers_le {trees : List (String × Tree)} {done members : Members}
    (means : members? done trees = some members) :
    depthOfMembers (treesOfMembers members) ≤
      max (depthOfMembers (treesOfMembers done)) (depthOfMembers trees) := by
  match trees with
  | [] => cases means; simp [depthOfMembers]
  | (name, tree) :: trees =>
    obtain ⟨first, read, rest⟩ := members?_cons means
    have one := depth_tree_le read
    have others := depthOfMembers_le rest
    have insert := depthOfMembers_insert done name first
    simp only [depthOfMembers]
    omega
termination_by sizeOf trees

end

/-! ## Strings -/

theorem hexDigitValue?_digitChar : ∀ n < 16, hexDigitValue? n.digitChar = some n := by decide

theorem codeUnit?_control {n : Nat} (small : n < 32) :
    codeUnit? ['0', '0', (n / 16).digitChar, (n % 16).digitChar] = some n := by
  have zero : hexDigitValue? '0' = some 0 := by decide
  have high := hexDigitValue?_digitChar (n / 16) (by omega)
  have low := hexDigitValue?_digitChar (n % 16) (by omega)
  simp only [codeUnit?, zero, high, low]
  congr 1
  omega

/-- A character as it is written inside a string. -/
theorem spellsText_escapeChar (c : Char) {s text : List Char} (rest : SpellsText s text) :
    SpellsText (c :: s) (escapeChar c ++ text) := by
  unfold escapeChar
  split
  case h_8 notQuote notBackslash _ _ _ _ _ =>
    split
    next control =>
      have escape := SpellsEscape.unit (codeUnit?_control control)
        (fun high => by have := high.1; omega) (fun low => by have := low.1; omega)
      rw [Char.ofNat_toNat] at escape
      exact .escape escape rest
    next visible => exact .plain ⟨by omega, notQuote, notBackslash⟩ rest
  all_goals exact .escape (.letter rfl) rest

theorem spellsString_quoted (s : String) : SpellsString s (quoted s).toList := by
  have body : ∀ chars : List Char, SpellsText chars (chars.flatMap escapeChar) := by
    intro chars
    induction chars with
    | nil => exact .nil
    | cons c chars ih => exact spellsText_escapeChar c ih
  simpa [quoted] using SpellsString.intro (body s.toList)

/-! ## Fragments -/

def textOf (fragments : List String) : List Char := fragments.flatMap String.toList

theorem blank_indent (depth : Nat) : Blank ('\n' :: (indent depth).toList) := by
  intro c member
  simp only [indent, String.toList_ofList, List.mem_cons, List.mem_replicate] at member
  rcases member with rfl | ⟨-, rfl⟩ <;> simp

theorem spells_itemFragments {item : Value} {items : List Value} (depth : Nat)
    (each : ∀ v ∈ item :: items, ∀ d, Spells v.tree (textOf (v.fragments d))) :
    ∃ text, textOf ("\n" :: indent (depth + 1) :: item.fragments (depth + 1) ++
        itemFragments depth items) = text ++ [']'] ∧
      SpellsItems (treesOfItems (item :: items)) text := by
  have first := each item (.head _) (depth + 1)
  induction items generalizing item with
  | nil =>
    refine ⟨_, ?_, .last (blank_indent (depth + 1)) first (blank_indent depth)⟩
    simp [textOf, itemFragments]
  | cons next items ih =>
    obtain ⟨text, same, rest⟩ := ih (fun v member => each v (.tail _ member))
      (each next (by simp) (depth + 1))
    refine ⟨_, ?_, .cons (blank_indent (depth + 1)) first blank_nil rest⟩
    simpa [textOf, itemFragments] using same

theorem spellsName_quoted (name : String) (depth : Nat) :
    SpellsName name ('\n' :: (indent depth).toList ++ (quoted name).toList ++ [] ++ [':']) :=
  .intro (blank_indent depth) (spellsString_quoted name) blank_nil

theorem spells_memberFragments {name : String} {value : Value} {members : Members} (depth : Nat)
    (each : ∀ member ∈ (name, value) :: members, ∀ d,
      Spells member.2.tree (textOf (member.2.fragments d))) :
    ∃ text, textOf ("\n" :: indent (depth + 1) :: quoted name :: ": " ::
        value.fragments (depth + 1) ++ memberFragments depth members) = text ++ ['}'] ∧
      SpellsMembers (treesOfMembers ((name, value) :: members)) text := by
  have first := each (name, value) (.head _) (depth + 1)
  have space : Blank [' '] := blank_singleton rfl
  induction members generalizing name value with
  | nil =>
    refine ⟨_, ?_, .last (spellsName_quoted name (depth + 1)) space first (blank_indent depth)⟩
    simp [textOf, memberFragments]
  | cons next members ih =>
    obtain ⟨name', value'⟩ := next
    obtain ⟨text, same, rest⟩ := ih (fun v member => each v (.tail _ member))
      (each (name', value') (by simp) (depth + 1))
    refine ⟨_, ?_, .cons (spellsName_quoted name (depth + 1)) space first blank_nil rest⟩
    simpa [textOf, memberFragments] using same

/-- The pieces of a document are derived from the grammar, however deep they are indented. -/
theorem spells_fragments {value : Value} (readable : Readable value) (depth : Nat) :
    Spells value.tree (textOf (value.fragments depth)) := by
  induction readable generalizing depth with
  | null => exact .null
  | bool b => cases b <;> constructor
  | @number n normal =>
    rw [tree_number]
    simpa [textOf, Value.fragments] using Spells.number n
  | string s => exact .string (by simpa [textOf, Value.fragments] using spellsString_quoted s)
  -- The comma before the first item is that of the general case and is cut off.
  | @array items _ ih =>
    cases items with
    | nil => exact .emptyArray blank_nil
    | cons item items =>
      obtain ⟨text, same, spelled⟩ := spells_itemFragments depth ih
      have whole := Spells.array spelled
      rw [List.cons_append, ← same] at whole
      exact whole
  | @object members _ distinct unmarked ih =>
    cases members with
    | nil => exact .emptyObject blank_nil
    | cons member members =>
      obtain ⟨name, value⟩ := member
      obtain ⟨text, same, spelled⟩ := spells_memberFragments depth ih
      have whole := Spells.object spelled
      rw [List.cons_append, ← same] at whole
      exact whole

/-! ## Reading what was laid out -/

theorem isDocument_pretty {value : Value} (readable : Readable value)
    (fits : value.tree.depth ≤ depthLimit) : IsDocument value.tree (encode value.pretty) := by
  have whole := SpellsDocument.intro blank_nil (spells_fragments readable 0) blank_nil
  rw [List.nil_append, List.append_nil] at whole
  rw [Value.pretty, encode, String.toList_join]
  exact .intro whole fits

/-- A document that is laid out is read as its value. -/
theorem parse_pretty {value : Value} (readable : Readable value)
    (fits : value.tree.depth ≤ depthLimit) : parse (encode value.pretty) = .ok value :=
  parse_of_isDocument (isDocument_pretty readable fits) (value?_tree readable)

/-- What was read can be laid out and read again. -/
theorem parse_pretty_of_parse {document : Bytes} {value : Value}
    (accepted : parse document = .ok value) : parse (encode value.pretty) = .ok value := by
  obtain ⟨tree, derived, means⟩ := exists_tree_of_parse accepted
  obtain ⟨-, fits⟩ := derived
  exact parse_pretty (readable_of_value? means) (Nat.le_trans (depth_tree_le means) fits)

end VectorFetch.Json

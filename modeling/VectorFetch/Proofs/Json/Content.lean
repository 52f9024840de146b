import VectorFetch.Proofs.Json.Layout
import VectorFetch.Proofs.Json.Lexer

/-!
# What laying out keeps

* `Numeral.value`: the number that a numeral denotes.
* `oncePerName`: each name at its first place, with its last value.
* `Tree.collapse`, `Tree.normal`: a tree without repeated names, and with normal numerals.
* `tree_of_value?`: the document of a value says what was read, collapsed and normal.
* `tokens?_pretty`: the tokens of a document that is laid out.
-/

namespace VectorFetch.Json

/-! ## Numbers -/

def digitsValue (digits : List Char) : Nat :=
  digits.foldl (fun n d => 10 * n + (d.toNat - 48)) 0

def Exponent.value (x : Exponent) : Int :=
  if x.sign = some '-' then -(digitsValue x.digits : Int) else digitsValue x.digits

/-- The number that a numeral denotes. -/
def Numeral.value (n : Numeral) : Rat :=
  let exponent := (n.exponent.map Exponent.value).getD 0
  let magnitude := (digitsValue (n.whole ++ n.fraction) : Rat) *
    (10 : Rat) ^ (exponent - n.fraction.length)
  if n.negative then -magnitude else magnitude

theorem Exponent.value_normal (x : Exponent) : x.normal.value = x.value := by
  cases sign : x.sign with
  | none => simp [value, normal, sign]
  | some s => simp [value, normal, sign]

theorem Numeral.value_normal (n : Numeral) : n.normal.value = n.value := by
  cases last : n.exponent with
  | none => rw [normal_of_exponent_eq_none last]
  | some x => simp [value, normal, last, Exponent.value_normal]

/-- The tokens of a text, with the numbers that they denote. -/
def tokens (lexemes : List (Lexeme Numeral)) : List (Lexeme Rat) :=
  lexemes.map (Lexeme.map Numeral.value)

/-! ## Repeated names -/

section Names

variable {α β : Type}

/-- The last value of a name, which is `a` if the name does not come again. -/
def lastValue (name : String) (a : α) : List (String × α) → α
  | [] => a
  | (n, b) :: rest => lastValue name (if n = name then b else a) rest

def withoutName (name : String) (members : List (String × α)) : List (String × α) :=
  members.filter fun member => member.1 ≠ name

theorem length_withoutName_le (name : String) (members : List (String × α)) :
    (withoutName name members).length ≤ members.length := List.length_filter_le _ members

/-- Each name once, at its first place and with its last value. -/
def oncePerName : List (String × α) → List (String × α)
  | [] => []
  | (name, a) :: rest => (name, lastValue name a rest) :: oncePerName (withoutName name rest)
termination_by members => members.length
decreasing_by
  have := length_withoutName_le name rest
  simp only [List.length_cons]
  omega

/-- Adds a member, or gives the one with its name a new value. -/
def upsert : List (String × α) → String × α → List (String × α)
  | [], member => [member]
  | (n, a) :: rest, member =>
    if n = member.1 then (n, member.2) :: rest else (n, a) :: upsert rest member

theorem foldl_upsert_cons (name : String) (a : α) (done members : List (String × α)) :
    members.foldl upsert ((name, a) :: done) =
      (name, lastValue name a members) ::
        (withoutName name members).foldl upsert done := by
  induction members generalizing a done with
  | nil => rfl
  | cons member members ih =>
    obtain ⟨n, b⟩ := member
    by_cases same : n = name
    · subst same
      simp [upsert, lastValue, withoutName, ih]
    · simp [upsert, lastValue, withoutName, Ne.symm same, same, ih]

/-- Adding one member after the other keeps each name at its first place. -/
theorem foldl_upsert (members : List (String × α)) :
    members.foldl upsert [] = oncePerName members := by
  -- What is left without a name is no tail of the members, so the induction is on the length.
  induction size : members.length using Nat.strongRecOn generalizing members with
  | ind n ih =>
    cases members with
    | nil => rw [oncePerName]; rfl
    | cons member members =>
      obtain ⟨name, a⟩ := member
      have shorter := length_withoutName_le name members
      rw [oncePerName, List.foldl_cons, upsert, foldl_upsert_cons,
        ih _ (by simp only [List.length_cons] at size; omega) _ rfl]

theorem upsert_map (f : α → β) (members : List (String × α)) (member : String × α) :
    upsert (members.map (Prod.map id f)) (Prod.map id f member) =
      (upsert members member).map (Prod.map id f) := by
  induction members with
  | nil => rfl
  | cons first members ih =>
    obtain ⟨n, a⟩ := first
    simp only [List.map_cons, upsert, Prod.map, id] at ih ⊢
    split
    next => simp
    next => simp [ih]

theorem oncePerName_map (f : α → β) (members : List (String × α)) :
    oncePerName (members.map (Prod.map id f)) = (oncePerName members).map (Prod.map id f) := by
  -- Both sides are folds, which the map goes through member by member.
  have step : ∀ (more done : List (String × α)),
      (more.map (Prod.map id f)).foldl upsert (done.map (Prod.map id f)) =
        (more.foldl upsert done).map (Prod.map id f) := by
    intro more
    induction more with
    | nil => intro done; rfl
    | cons member more ih =>
      intro done
      rw [List.map_cons, List.foldl_cons, List.foldl_cons, upsert_map, ih]
  rw [← foldl_upsert, ← foldl_upsert]
  exact step members []

end Names

/-! ## Trees -/

mutual

/-- The tree without repeated names. -/
def Tree.collapse : Tree → Tree
  | .null => .null
  | .bool b => .bool b
  | .number n => .number n
  | .string s => .string s
  | .array items => .array (collapseItems items)
  | .object members => .object (oncePerName (collapseMembers members))

def collapseItems : List Tree → List Tree
  | [] => []
  | item :: items => item.collapse :: collapseItems items

def collapseMembers : List (String × Tree) → List (String × Tree)
  | [] => []
  | (name, tree) :: members => (name, tree.collapse) :: collapseMembers members

end

mutual

/-- The tree with normal numerals. -/
def Tree.normal : Tree → Tree
  | .null => .null
  | .bool b => .bool b
  | .number n => .number n.normal
  | .string s => .string s
  | .array items => .array (normalItems items)
  | .object members => .object (normalMembers members)

def normalItems : List Tree → List Tree
  | [] => []
  | item :: items => item.normal :: normalItems items

def normalMembers : List (String × Tree) → List (String × Tree)
  | [] => []
  | (name, tree) :: members => (name, tree.normal) :: normalMembers members

end

theorem normalMembers_eq_map (members : List (String × Tree)) :
    normalMembers members = members.map (Prod.map id Tree.normal) := by
  induction members with
  | nil => rfl
  | cons member members ih => simp [normalMembers, ih, Prod.map]

/-- No object of the tree begins with the name that marks a number. -/
inductive Unmarked : Tree → Prop
  | null : Unmarked .null
  | bool (b : Bool) : Unmarked (.bool b)
  | number (n : Numeral) : Unmarked (.number n)
  | string (s : String) : Unmarked (.string s)
  | array {items : List Tree} (each : ∀ item ∈ items, Unmarked item) : Unmarked (.array items)
  | object {members : List (String × Tree)} (first : ¬IsMarked members)
      (each : ∀ member ∈ members, Unmarked member.2) : Unmarked (.object members)

theorem treesOfMembers_insert (members : Members) (name : String) (value : Value) :
    treesOfMembers (members.insert name value) =
      upsert (treesOfMembers members) (name, value.tree) := by
  induction members with
  | nil => rfl
  | cons first rest ih =>
    obtain ⟨n, v⟩ := first
    simp only [Members.insert, treesOfMembers, upsert]
    split
    next => rfl
    next => simp only [treesOfMembers, ih]

mutual

/-- The document of a value says what was read, collapsed and normal. -/
theorem tree_of_value? {tree : Tree} {value : Value} (means : tree.value? = some value)
    (unmarked : Unmarked tree) : value.tree = tree.collapse.normal := by
  cases unmarked with
  | null => cases means; rfl
  | bool b => cases means; rfl
  | number n => cases means; exact tree_toValue n
  | string s => cases means; rfl
  | array each =>
    obtain ⟨values, read, rfl⟩ := Option.map_eq_some_iff.1 means
    simp only [Value.tree, Tree.collapse, Tree.normal, trees_of_values? read each]
  | object first each =>
    simp only [Tree.value?, if_neg first] at means
    obtain ⟨members, read, rfl⟩ := Option.map_eq_some_iff.1 means
    -- The reader inserts member after member, which keeps each name at its first place.
    have trees := trees_of_members? read each
    rw [treesOfMembers, foldl_upsert, normalMembers_eq_map, oncePerName_map] at trees
    rw [Value.tree, trees, ← normalMembers_eq_map, Tree.collapse, Tree.normal]
termination_by sizeOf tree

theorem trees_of_values? {trees : List Tree} {values : List Value}
    (means : values? trees = some values) (unmarked : ∀ tree ∈ trees, Unmarked tree) :
    treesOfItems values = normalItems (collapseItems trees) := by
  cases trees with
  | nil => cases means; rfl
  | cons tree trees =>
    obtain ⟨first, rest, read, readRest, rfl⟩ := values?_cons means
    simp only [treesOfItems, collapseItems, normalItems]
    rw [tree_of_value? read (unmarked tree (.head _)),
      trees_of_values? readRest fun tree member => unmarked tree (.tail _ member)]
termination_by sizeOf trees

theorem trees_of_members? {trees : List (String × Tree)} {done members : Members}
    (means : members? done trees = some members) (unmarked : ∀ tree ∈ trees, Unmarked tree.2) :
    treesOfMembers members =
      (normalMembers (collapseMembers trees)).foldl upsert (treesOfMembers done) := by
  match trees with
  | [] => cases means; rfl
  | (name, tree) :: trees =>
    obtain ⟨first, read, rest⟩ := members?_cons means
    rw [trees_of_members? rest fun tree member => unmarked tree (.tail _ member),
      treesOfMembers_insert, tree_of_value? read (unmarked _ (.head _))]
    rfl
termination_by sizeOf trees

end

mutual

/-- Only an object that stands for a number can be without a value. -/
theorem exists_value?_of_unmarked {tree : Tree} (unmarked : Unmarked tree) :
    ∃ value, tree.value? = some value := by
  cases unmarked with
  | null => exact ⟨.null, rfl⟩
  | bool b => exact ⟨.bool b, rfl⟩
  | number n => exact ⟨n.toValue, rfl⟩
  | string s => exact ⟨.string s, rfl⟩
  | array each =>
    obtain ⟨values, read⟩ := exists_values?_of_unmarked each
    exact ⟨.array values, by simp only [Tree.value?, read, Option.map_some]⟩
  | object first each =>
    obtain ⟨members, read⟩ := exists_members?_of_unmarked [] each
    exact ⟨.object members, by simp only [Tree.value?, if_neg first, read, Option.map_some]⟩
termination_by sizeOf tree

theorem exists_values?_of_unmarked {trees : List Tree} (unmarked : ∀ tree ∈ trees, Unmarked tree) :
    ∃ values, values? trees = some values := by
  match trees with
  | [] => exact ⟨[], rfl⟩
  | tree :: trees =>
    obtain ⟨first, read⟩ := exists_value?_of_unmarked (unmarked tree (.head _))
    obtain ⟨rest, readRest⟩ := exists_values?_of_unmarked fun tree member =>
      unmarked tree (.tail _ member)
    exact ⟨first :: rest, by simp only [values?, read, readRest]⟩
termination_by sizeOf trees

theorem exists_members?_of_unmarked {trees : List (String × Tree)} (done : Members)
    (unmarked : ∀ tree ∈ trees, Unmarked tree.2) : ∃ members, members? done trees = some members := by
  match trees with
  | [] => exact ⟨done, rfl⟩
  | (name, tree) :: trees =>
    obtain ⟨first, read⟩ := exists_value?_of_unmarked (unmarked _ (.head _))
    obtain ⟨members, readRest⟩ := exists_members?_of_unmarked (done.insert name first)
      fun tree member => unmarked tree (.tail _ member)
    exact ⟨members, by simp only [members?, read, readRest]⟩
termination_by sizeOf trees

end

mutual

theorem lexemes_normal (tree : Tree) :
    tree.normal.lexemes = tree.lexemes.map (Lexeme.map Numeral.normal) := by
  match tree with
  | .null | .bool _ | .number _ | .string _ | .array [] | .object [] => rfl
  | .array (item :: items) =>
    simp [Tree.normal, normalItems, Tree.lexemes, lexemes_normal item, lexemesOfItems_normal items,
      Lexeme.map]
  | .object ((name, tree) :: members) =>
    simp [Tree.normal, normalMembers, Tree.lexemes, lexemes_normal tree,
      lexemesOfMembers_normal members, Lexeme.map]
termination_by sizeOf tree

theorem lexemesOfItems_normal (items : List Tree) :
    lexemesOfItems (normalItems items) = (lexemesOfItems items).map (Lexeme.map Numeral.normal) := by
  match items with
  | [] => rfl
  | item :: items =>
    simp [normalItems, lexemesOfItems, lexemes_normal item, lexemesOfItems_normal items, Lexeme.map]
termination_by sizeOf items

theorem lexemesOfMembers_normal (members : List (String × Tree)) :
    lexemesOfMembers (normalMembers members) =
      (lexemesOfMembers members).map (Lexeme.map Numeral.normal) := by
  match members with
  | [] => rfl
  | (name, tree) :: members =>
    simp [normalMembers, lexemesOfMembers, lexemes_normal tree, lexemesOfMembers_normal members,
      Lexeme.map]
termination_by sizeOf members

end

theorem tokens_map_normal (lexemes : List (Lexeme Numeral)) :
    tokens (lexemes.map (Lexeme.map Numeral.normal)) = tokens lexemes := by
  have same : Lexeme.map Numeral.value ∘ Lexeme.map Numeral.normal = Lexeme.map Numeral.value := by
    funext token
    cases token <;> simp [Lexeme.map, Numeral.value_normal]
  rw [tokens, List.map_map, same]
  rfl

/-! ## Documents -/

/-- The tokens of a byte string, with numbers as they are spelled. -/
def spelledTokens? (document : Bytes) : Option (List (Lexeme Numeral)) :=
  match Utf8.decode document with
  | .ok text => lexemes? text
  | .error _ => none

/-- The tokens of a byte string, with the numbers that they denote. -/
def tokens? (document : Bytes) : Option (List (Lexeme Rat)) :=
  (spelledTokens? document).map tokens

theorem spelledTokens?_of_isDocument {tree : Tree} {document : Bytes}
    (derived : IsDocument tree document) : spelledTokens? document = some tree.lexemes := by
  obtain ⟨spelled, -⟩ := derived
  rw [spelledTokens?, Utf8.decode_encodeChars]
  exact lexemes?_of_document spelled

/-- A document says one tree. -/
theorem IsDocument.unique {tree other : Tree} {document : Bytes} (derived : IsDocument tree document)
    (same : IsDocument other document) : other = tree :=
  lexemes_injective (Option.some.inj
    ((spelledTokens?_of_isDocument same).symm.trans (spelledTokens?_of_isDocument derived)))

/-- A document that is accepted has the tokens of one tree. Laid out, it has those of the
collapsed tree, with normal numerals. -/
theorem spelledTokens?_pretty {document : Bytes} {value : Value}
    (accepted : parse document = .ok value) :
    ∃ tree : Tree, spelledTokens? document = some tree.lexemes ∧
      (∀ other : Tree, spelledTokens? document = some other.lexemes → other = tree) ∧
      (Unmarked tree → spelledTokens? (Utf8.encode value.pretty) =
        some (tree.collapse.lexemes.map (Lexeme.map Numeral.normal))) := by
  obtain ⟨tree, derived, means⟩ := exists_tree_of_parse accepted
  have cut := spelledTokens?_of_isDocument derived
  refine ⟨tree, cut, fun other same => ?_, fun unmarked => ?_⟩
  · exact lexemes_injective (Option.some.inj (same.symm.trans cut))
  · obtain ⟨-, fits⟩ := derived
    have again := isDocument_pretty (readable_of_value? means)
      (Nat.le_trans (depth_tree_le means) fits)
    rw [spelledTokens?_of_isDocument again, tree_of_value? means unmarked, lexemes_normal]

/-- The same for the numbers that the tokens denote. -/
theorem tokens?_pretty {document : Bytes} {value : Value} (accepted : parse document = .ok value) :
    ∃ tree : Tree, spelledTokens? document = some tree.lexemes ∧
      (∀ other : Tree, spelledTokens? document = some other.lexemes → other = tree) ∧
      (Unmarked tree → tokens? (Utf8.encode value.pretty) = some (tokens tree.collapse.lexemes)) := by
  obtain ⟨tree, cut, unique, laidOut⟩ := spelledTokens?_pretty accepted
  refine ⟨tree, cut, unique, fun unmarked => ?_⟩
  rw [tokens?, laidOut unmarked, Option.map_some, tokens_map_normal]

end VectorFetch.Json

/-!
# JSON values

* `Value`: null, booleans, numbers by their text, strings, arrays and objects.
* `Members.insert`: a repeated name keeps its first place and takes the last value.
* `Value.beq`: equality, with the order of members.
-/

namespace VectorFetch.Json

/-- A JSON value. A number is its text; an object lists its members in the order in
which their names first appeared. -/
inductive Value where
  | null
  | bool (value : Bool)
  | number (text : String)
  | string (text : String)
  | array (items : List Value)
  | object (members : List (String × Value))
  deriving Inhabited

/-! ## Members of objects -/

/-- The members of an object. -/
abbrev Members := List (String × Value)

/-- Adds a member. A name that is there keeps its place and takes the new value. -/
def Members.insert : Members → String → Value → Members
  | [], name, value => [(name, value)]
  | (n, v) :: rest, name, value =>
    if n = name then (n, value) :: rest else (n, v) :: Members.insert rest name value

theorem Members.names_insert (members : Members) (name : String) (value : Value) :
    (members.insert name value).map Prod.fst =
      if name ∈ members.map Prod.fst then members.map Prod.fst
      else members.map Prod.fst ++ [name] := by
  induction members with
  | nil => simp [Members.insert]
  | cons m rest ih =>
    obtain ⟨n, v⟩ := m
    grind [Members.insert]

mutual

/-- Equality of values, numbers by their text and members in order. -/
def Value.beq : Value → Value → Bool
  | .null, .null => true
  | .bool a, .bool b => a == b
  | .number a, .number b => a == b
  | .string a, .string b => a == b
  | .array a, .array b => beqItems a b
  | .object a, .object b => beqMembers a b
  | _, _ => false

def beqItems : List Value → List Value → Bool
  | [], [] => true
  | a :: as, b :: bs => Value.beq a b && beqItems as bs
  | _, _ => false

def beqMembers : List (String × Value) → List (String × Value) → Bool
  | [], [] => true
  | (m, a) :: as, (n, b) :: bs => m == n && Value.beq a b && beqMembers as bs
  | _, _ => false

end

instance : BEq Value := ⟨Value.beq⟩

end VectorFetch.Json

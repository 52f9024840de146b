import VectorFetch.Key

/-!
# Cursors over the key space

A cursor is a range of keys that is used up from the front. It has its bounds as bytes, and the
last byte has no successor: the step onto the last key leaves the bounds alone and marks the range
as exhausted.

* `Cursor.next`: passes one key. All other operations go by it.
* `Cursor.nth`, `Cursor.take`, `Cursor.position?` move a cursor; `Cursor.size`, `Cursor.last?`,
  `Cursor.min?`, `Cursor.max?`, `Cursor.sum` use up a copy of it.
* `Cursor.toList`: the keys still ahead.
* `Cursor.Step`, `Cursor.Stack.run`: a stack of cursors driven by a list of steps.

By `drains_toList` the keys that `next` gives one after the other are those of `toList`, and
`Drains.nth` and its like say what the other operations make of them.
-/

namespace VectorFetch.Key

/-- The keys from a first one to a last one, both included, unless they are used up. -/
structure Cursor where
  first : UInt8
  last : UInt8
  exhausted : Bool
  deriving DecidableEq, Repr

namespace Cursor

/-- A cursor before the whole key space. -/
def start : Cursor := ⟨0, 255, false⟩

/-! ## Moving -/

/-- No key is ahead. -/
def isEmpty (c : Cursor) : Bool := c.exhausted || c.last < c.first

/-- Passes one key, which is the answer. -/
def next (c : Cursor) : Option Key × Cursor :=
  if c.isEmpty then (none, c)
  else if c.first < c.last then (some ⟨c.first⟩, { c with first := c.first + 1 })
  else (some ⟨c.first⟩, { c with exhausted := true })

/-- How many keys are ahead. -/
def remaining (c : Cursor) : Nat := if c.exhausted then 0 else c.last.toNat + 1 - c.first.toNat

theorem remaining_of_next {c c' : Cursor} {key : Key} (passed : c.next = (some key, c')) :
    c.remaining = c'.remaining + 1 ∧ key = ofNat c.first.toNat ∧
      (c'.remaining = 0 ∨ c'.first.toNat = c.first.toNat + 1) := by
  have value : (⟨c.first⟩ : Key) = ofNat c.first.toNat := by simp [ofNat]
  unfold next at passed
  split at passed
  next => cases passed
  next there =>
    simp only [isEmpty, Bool.or_eq_true, decide_eq_true_eq, not_or, Bool.not_eq_true] at there
    obtain ⟨fresh, ordered⟩ := there
    rw [UInt8.lt_iff_toNat_lt] at ordered
    split at passed
    next before =>
      obtain ⟨rfl, rfl⟩ := passed
      rw [UInt8.lt_iff_toNat_lt] at before
      have bound := c.last.toNat_lt
      -- Below the last key there is room for one more.
      have following : (c.first + 1).toNat = c.first.toNat + 1 := by
        rw [UInt8.toNat_add]
        exact Nat.mod_eq_of_lt (by change c.first.toNat + 1 < 256; omega)
      refine ⟨?_, value, .inr following⟩
      simp only [remaining, fresh, following, Bool.false_eq_true, if_false]
      omega
    next last =>
      obtain ⟨rfl, rfl⟩ := passed
      rw [UInt8.lt_iff_toNat_lt] at last
      refine ⟨?_, value, .inl rfl⟩
      simp only [remaining, fresh, Bool.false_eq_true, if_false, if_true]
      omega

/-- Passes `n` keys and the one after them, which is the answer. -/
def nth (c : Cursor) : Nat → Option Key × Cursor
  | 0 => c.next
  | n + 1 =>
    match c.next with
    | (none, c') => (none, c')
    | (some _, c') => c'.nth n

/-- Passes up to `n` keys, which are the answer. -/
def take (c : Cursor) : Nat → List Key × Cursor
  | 0 => ([], c)
  | n + 1 =>
    match c.next with
    | (none, c') => ([], c')
    | (some key, c') =>
      let (keys, c'') := c'.take n
      (key :: keys, c'')

/-- Looks for a key ahead and passes it. The answer counts the keys passed on the
way; a key that is not ahead uses the cursor up. -/
def position? (c : Cursor) (key : Key) : Option Nat × Cursor :=
  match _ : c.next with
  | (none, c') => (none, c')
  | (some other, c') =>
    if other = key then (some 0, c')
    else
      let (index, c'') := c'.position? key
      (index.map (· + 1), c'')
termination_by c.remaining
decreasing_by have := (remaining_of_next ‹_›).1; omega

/-! ## Using up a copy -/

/-- Goes over all keys ahead. -/
def fold {α : Type} (f : α → Key → α) (a : α) (c : Cursor) : α :=
  match _ : c.next with
  | (none, _) => a
  | (some key, c') => c'.fold f (f a key)
termination_by c.remaining
decreasing_by have := (remaining_of_next ‹_›).1; omega

def size (c : Cursor) : Nat := c.fold (fun n _ => n + 1) 0

def last? (c : Cursor) : Option Key := c.fold (fun _ key => some key) none

/-- Goes over all keys ahead with the one that is preferred so far. -/
def preferred (choose : Key → Key → Key) (c : Cursor) : Option Key :=
  c.fold (fun best key => some (best.elim key (choose · key))) none

def min? (c : Cursor) : Option Key := c.preferred Key.min

def max? (c : Cursor) : Option Key := c.preferred Key.max

/-- The sum of the byte values of the keys ahead. -/
def sum (c : Cursor) : Nat := c.fold (fun n key => n + key.index) 0

/-! ## The keys ahead -/

/-- The keys still ahead, in order. -/
def toList (c : Cursor) : List Key := (List.range' c.first.toNat c.remaining).map ofNat

@[simp] theorem toList_start : start.toList = Key.all := by
  rw [toList, Key.all, List.range_eq_range']
  rfl

/-- The keys that `next` gives, up to the point where it gives none and stays there. -/
inductive Drains : Cursor → List Key → Prop where
  | nil {c : Cursor} (passed : c.next = (none, c)) : Drains c []
  | cons {c c' : Cursor} {key : Key} {keys : List Key} (passed : c.next = (some key, c'))
    (rest : Drains c' keys) : Drains c (key :: keys)

theorem next_eq_none {c c' : Cursor} (passed : c.next = (none, c')) :
    c.remaining = 0 ∧ c' = c := by
  unfold next at passed
  split at passed
  next empty =>
    obtain ⟨-, rfl⟩ := passed
    refine ⟨?_, rfl⟩
    simp only [isEmpty, Bool.or_eq_true, decide_eq_true_eq, UInt8.lt_iff_toNat_lt] at empty
    unfold remaining
    split
    next => rfl
    next there =>
      have crossed : c.last.toNat < c.first.toNat := empty.resolve_left there
      omega
  next =>
    split at passed <;> cases passed

theorem drains_toList (c : Cursor) : Drains c c.toList := by
  -- By induction on the number of keys ahead: `next` passes the first of them.
  induction ahead : c.remaining generalizing c with
  | zero =>
    rcases passed : c.next with ⟨_ | key, c'⟩
    · obtain ⟨-, rfl⟩ := next_eq_none passed
      rw [toList, ahead]
      exact .nil passed
    · have := (remaining_of_next passed).1
      omega
  | succ n ih =>
    rcases passed : c.next with ⟨_ | key, c'⟩
    · have := (next_eq_none passed).1
      omega
    · obtain ⟨fewer, rfl, onward⟩ := remaining_of_next passed
      have left : c'.remaining = n := by omega
      -- The step onto the last key leaves the bounds alone, but then nothing is ahead.
      have rest : c'.toList = (List.range' (c.first.toNat + 1) n).map ofNat := by
        rcases onward with none | onward
        · rw [toList, none, show n = 0 by omega]
          rfl
        · rw [toList, onward, left]
      have ahead : c.toList = ofNat c.first.toNat :: c'.toList := by
        rw [toList, rest, ahead, List.range'_succ, List.map_cons]
      exact ahead ▸ .cons passed (ih c' left)

namespace Drains

variable {c : Cursor} {keys : List Key}

theorem unique {keys' : List Key} (drains : Drains c keys) (drains' : Drains c keys') :
    keys = keys' := by
  induction drains generalizing keys' with
  | nil passed =>
    cases drains' with
    | nil => rfl
    | cons passed' => cases passed.symm.trans passed'
  | cons passed _ ih =>
    cases drains' with
    | nil passed' => cases passed.symm.trans passed'
    | cons passed' rest' =>
      cases passed.symm.trans passed'
      rw [ih rest']

theorem toList_eq (drains : Drains c keys) : c.toList = keys := (drains_toList c).unique drains

theorem next (drains : Drains c keys) :
    c.next.1 = keys.head? ∧ Drains c.next.2 keys.tail := by
  cases drains with
  | nil passed =>
    rw [passed]
    exact ⟨rfl, .nil passed⟩
  | cons passed rest =>
    rw [passed]
    exact ⟨rfl, rest⟩

theorem nth (drains : Drains c keys) (n : Nat) :
    (c.nth n).1 = keys[n]? ∧ Drains (c.nth n).2 (keys.drop (n + 1)) := by
  induction n generalizing c keys with
  | zero =>
    rw [Cursor.nth, List.drop_one, ← List.head?_eq_getElem?]
    exact drains.next
  | succ n ih =>
    cases drains with
    | nil passed =>
      simp only [Cursor.nth, passed]
      exact ⟨rfl, .nil passed⟩
    | cons passed rest =>
      simp only [Cursor.nth, passed]
      exact ih rest

theorem take (drains : Drains c keys) (n : Nat) :
    (c.take n).1 = keys.take n ∧ Drains (c.take n).2 (keys.drop n) := by
  induction n generalizing c keys with
  | zero => exact ⟨rfl, drains⟩
  | succ n ih =>
    cases drains with
    | nil passed =>
      simp only [Cursor.take, passed]
      exact ⟨rfl, .nil passed⟩
    | cons passed rest =>
      obtain ⟨taken, left⟩ := ih rest
      simp only [Cursor.take, passed, List.take_succ_cons, List.drop_succ_cons]
      exact ⟨by rw [taken], left⟩

theorem position? (drains : Drains c keys) (key : Key) :
    (c.position? key).1 = keys.idxOf? key ∧
      Drains (c.position? key).2 (keys.drop (keys.idxOf key + 1)) := by
  induction drains with
  | nil passed =>
    rw [Cursor.position?, passed]
    exact ⟨rfl, .nil passed⟩
  | @cons c c' other rest passed left ih =>
    rw [Cursor.position?, passed]
    rw [List.idxOf?_cons, List.idxOf_cons]
    by_cases same : other = key
    · simp [same, left]
    · obtain ⟨found, behind⟩ := ih
      have differs : (other == key) = false := beq_eq_false_iff_ne.2 same
      simp [same, differs, found, behind]

theorem fold {α : Type} (drains : Drains c keys) (f : α → Key → α) (a : α) :
    c.fold f a = keys.foldl f a := by
  induction drains generalizing a with
  | nil passed =>
    rw [Cursor.fold, passed]
    rfl
  | cons passed _ ih =>
    rw [Cursor.fold, passed]
    exact ih (f a _)

end Drains

/-! ## A stack of cursors -/

/-- One step on the cursor at the top of a stack, or on the stack itself. -/
inductive Step where
  | next
  | nth (n : Nat)
  | take (n : Nat)
  | find (key : Key)
  | count
  | last
  | min
  | max
  | sum
  | fresh
  | fork
  | drop
  deriving DecidableEq, Repr

/-- What a step answers. -/
inductive Answer where
  | key (key : Option Key)
  | keys (keys : List Key)
  | place (index : Option Nat)
  | number (n : Nat)
  | depth (size : Nat)
  deriving DecidableEq, Repr

/-- Cursors, the top first. -/
abbrev Stack := List Cursor

/-- One step on the top of a non-empty stack. -/
def Step.apply (top : Cursor) (below : Stack) : Step → Answer × Stack
  | .next => let (key, c) := top.next; (.key key, c :: below)
  | .nth n => let (key, c) := top.nth n; (.key key, c :: below)
  | .take n => let (keys, c) := top.take n; (.keys keys, c :: below)
  | .find key => let (index, c) := top.position? key; (.place index, c :: below)
  | .count => (.number top.size, top :: below)
  | .last => (.key top.last?, top :: below)
  | .min => (.key top.min?, top :: below)
  | .max => (.key top.max?, top :: below)
  | .sum => (.number top.sum, top :: below)
  | .fresh => (.depth (below.length + 2), start :: top :: below)
  | .fork => (.depth (below.length + 2), top :: top :: below)
  | .drop => (.depth below.length, below)

/-- Steps one after the other. Once the last cursor is dropped there is nothing
left to act on, and the remaining steps have no answer. -/
def Stack.run : Stack → List Step → List Answer
  | _, [] => []
  | [], .fresh :: steps => .depth 1 :: Stack.run [start] steps
  | [], _ :: _ => []
  | top :: below, step :: steps =>
    let (answer, stack) := step.apply top below
    answer :: Stack.run stack steps

end Cursor

end VectorFetch.Key

import Mathlib.Algebra.Ring.Nat
import Mathlib.Data.List.Forall2
import Mathlib.Data.List.MinMax
import VectorFetch.Key.Cursor

/-!
# Cursors as lists of keys

A cursor is as good as the list of the keys ahead of it, whatever is done to a stack of cursors.

* `Ahead.run`: the same steps on a stack of lists.
* `Drains.apply`, `run_ahead`: one step, and a whole run.
* `run_append`: what stands below and what happens on top of it have nothing to do with each other.
* `Used`: what becomes of one cursor. It gives its keys in order and none of them twice, and once
  it has given the last one it has nothing more to give.
* `Stack.asLists`: all of it, for every stack and every list of steps.
-/

namespace VectorFetch.Key.Cursor

/-! ## Lists of keys -/

/-- For each cursor of a stack the keys ahead of it, the top first. -/
abbrev Ahead := List (List Key)

namespace Step

/-- How many of the keys ahead a step passes, if there are so many. -/
def passes (keys : List Key) : Step → Nat
  | .next => 1
  | .nth n => n + 1
  | .take n => n
  | .find key => keys.idxOf key + 1
  | _ => 0

/-- What a step answers where these keys are ahead, and so many lists below. -/
def answer (keys : List Key) (below : Nat) : Step → Answer
  | .next => .key keys.head?
  | .nth n => .key keys[n]?
  | .take n => .keys (keys.take n)
  | .find key => .place (keys.idxOf? key)
  | .count => .number keys.length
  | .last => .key keys.getLast?
  | .min => .key (keys.argmin Key.index)
  | .max => .key (keys.argmax Key.index)
  | .sum => .number (keys.map Key.index).sum
  | .fresh | .fork => .depth (below + 2)
  | .drop => .depth below

/-- What a step leaves of a list of keys and those below. -/
def leave (keys : List Key) (below : Ahead) (step : Step) : Ahead :=
  match step with
  | .fresh => Key.all :: keys :: below
  | .fork => keys :: keys :: below
  | .drop => below
  | step => keys.drop (step.passes keys) :: below

end Step

/-- The answers to steps one after the other, and the lists in the end. -/
def Ahead.run : Ahead → List Step → List Answer × Ahead
  | ahead, [] => ([], ahead)
  | [], .fresh :: steps =>
    let (answers, ahead) := Ahead.run [Key.all] steps
    (.depth 1 :: answers, ahead)
  | [], _ :: _ => ([], [])
  | keys :: below, step :: steps =>
    let (answers, ahead) := Ahead.run (step.leave keys below) steps
    (step.answer keys below.length :: answers, ahead)

/-! ## One step -/

namespace Drains

variable {c : Cursor} {keys : List Key}

theorem size (drains : Drains c keys) : c.size = keys.length := by
  have go : ∀ (keys : List Key) (n : Nat), keys.foldl (fun n _ => n + 1) n = n + keys.length := by
    intro keys
    induction keys with
    | nil => exact fun n => rfl
    | cons key keys ih =>
      intro n
      rw [List.foldl_cons, ih, List.length_cons]
      omega
  rw [Cursor.size, drains.fold, go, Nat.zero_add]

theorem last? (drains : Drains c keys) : c.last? = keys.getLast? := by
  have go : ∀ (keys : List Key) (a : Option Key),
      keys.foldl (fun _ key => some key) a = keys.getLast?.or a := by
    intro keys
    induction keys with
    | nil => exact fun a => rfl
    | cons key keys ih =>
      intro a
      rw [List.foldl_cons, ih, List.getLast?_cons]
      cases keys.getLast? <;> rfl
  rw [Cursor.last?, drains.fold, go, Option.or_none]

theorem sum (drains : Drains c keys) : c.sum = (keys.map Key.index).sum := by
  rw [Cursor.sum, drains.fold, List.sum_eq_foldl, List.foldl_map]

theorem min? (drains : Drains c keys) : c.min? = keys.argmin Key.index := by
  rw [Cursor.min?, preferred, drains.fold, List.argmin]
  congr 1
  funext best key
  cases best with
  | none => rfl
  | some least => exact apply_ite some _ _ _

theorem max? (drains : Drains c keys) : c.max? = keys.argmax Key.index := by
  rw [Cursor.max?, preferred, drains.fold, List.argmax]
  congr 1
  funext best key
  cases best with
  | none => rfl
  | some most =>
    simp only [Option.elim_some, Key.max, List.argAux]
    rcases Nat.lt_trichotomy most.index key.index with less | same | more
    · rw [if_pos less.le, if_pos less]
    · -- Keys with one index are one key, so it makes no difference which of them is preferred.
      have one : most = key := by rw [← ofNat_index most, same, ofNat_index]
      simp [one]
    · rw [if_neg (by omega), if_neg (by omega)]

end Drains

/-! ## A whole run -/

/-- The stack that steps leave. -/
def Stack.after : Stack → List Step → Stack
  | stack, [] => stack
  | [], .fresh :: steps => Stack.after [start] steps
  | [], _ :: _ => []
  | top :: below, step :: steps => Stack.after (step.apply top below).2 steps

theorem run_cons (top : Cursor) (below : Stack) (step : Step) (steps : List Step) :
    Stack.run (top :: below) (step :: steps) =
      (step.apply top below).1 :: Stack.run (step.apply top below).2 steps := by
  simp only [Stack.run]

theorem Ahead.run_cons (keys : List Key) (below : Ahead) (step : Step) (steps : List Step) :
    Ahead.run (keys :: below) (step :: steps) =
      (step.answer keys below.length :: (Ahead.run (step.leave keys below) steps).1,
        (Ahead.run (step.leave keys below) steps).2) := by
  simp only [Ahead.run]

/-- There may be no cursor to begin with. -/
theorem run_fresh (stack : Stack) (steps : List Step) :
    stack.run (.fresh :: steps) = .depth (stack.length + 1) :: Stack.run (start :: stack) steps ∧
      stack.after (.fresh :: steps) = Stack.after (start :: stack) steps := by
  cases stack with
  | nil => exact ⟨rfl, rfl⟩
  | cons top below => exact ⟨run_cons top below .fresh steps, by rw [Stack.after]; rfl⟩

/-- A step does the same to cursors and to the lists that they give. -/
theorem Drains.apply {c : Cursor} {keys : List Key} {below : Stack} {ahead : Ahead}
    (drains : Drains c keys) (others : List.Forall₂ Drains below ahead) (step : Step) :
    (step.apply c below).1 = step.answer keys ahead.length ∧
      List.Forall₂ Drains (step.apply c below).2 (step.leave keys ahead) := by
  have depth := others.length_eq
  cases step with
  -- One case for each step, and for each of them the lemma about what it drains.
  | next =>
    obtain ⟨answer, rest⟩ := drains.next
    rw [← List.drop_one] at rest
    exact ⟨congrArg Answer.key answer, .cons rest others⟩
  | nth n =>
    obtain ⟨answer, rest⟩ := drains.nth n
    exact ⟨congrArg Answer.key answer, .cons rest others⟩
  | take n =>
    obtain ⟨answer, rest⟩ := drains.take n
    exact ⟨congrArg Answer.keys answer, .cons rest others⟩
  | find key =>
    obtain ⟨answer, rest⟩ := drains.position? key
    exact ⟨congrArg Answer.place answer, .cons rest others⟩
  | count => exact ⟨congrArg Answer.number drains.size, .cons drains others⟩
  | last => exact ⟨congrArg Answer.key drains.last?, .cons drains others⟩
  | min => exact ⟨congrArg Answer.key drains.min?, .cons drains others⟩
  | max => exact ⟨congrArg Answer.key drains.max?, .cons drains others⟩
  | sum => exact ⟨congrArg Answer.number drains.sum, .cons drains others⟩
  | fresh =>
    have whole : Drains start Key.all := toList_start ▸ drains_toList start
    exact ⟨congrArg (Answer.depth <| · + 2) depth, .cons whole (.cons drains others)⟩
  | fork => exact ⟨congrArg (Answer.depth <| · + 2) depth, .cons drains (.cons drains others)⟩
  | drop => exact ⟨congrArg Answer.depth depth, others⟩

theorem run_ahead {stack : Stack} {ahead : Ahead} (drain : List.Forall₂ Drains stack ahead)
    (steps : List Step) : stack.run steps = (Ahead.run ahead steps).1 ∧
      List.Forall₂ Drains (stack.after steps) (Ahead.run ahead steps).2 := by
  -- By induction on the steps: what one step keeps is that cursors give the lists beside them.
  induction steps generalizing stack ahead with
  | nil => cases drain with
    | nil => exact ⟨rfl, .nil⟩
    | cons drains others => exact ⟨rfl, .cons drains others⟩
  | cons step steps ih =>
    cases drain with
    | nil =>
      cases step with
      | fresh =>
        have whole : Drains start Key.all := toList_start ▸ drains_toList start
        obtain ⟨answers, left⟩ := ih (.cons whole .nil)
        exact ⟨congrArg (Answer.depth 1 :: ·) answers, left⟩
      | _ => exact ⟨rfl, .nil⟩
    | @cons c keys below ahead drains others =>
      obtain ⟨answer, left⟩ := drains.apply others step
      obtain ⟨answers, left⟩ := ih left
      rw [run_cons, Ahead.run_cons, Stack.after, answer, answers]
      exact ⟨rfl, left⟩

theorem forall₂_drains_iff {stack : Stack} {ahead : Ahead} :
    List.Forall₂ Drains stack ahead ↔ ahead = stack.map toList := by
  constructor
  · intro drain
    induction drain with
    | nil => rfl
    | cons drains _ ih => rw [List.map_cons, drains.toList_eq, ih]
  · rintro rfl
    induction stack with
    | nil => exact .nil
    | cons c stack ih => exact .cons (drains_toList c) ih

/-! ## Cursors on top of others -/

/-- How many cursors there are after a step on the top of so many. -/
def Step.height (own : Nat) : Step → Nat
  | .fresh | .fork => own + 1
  | .drop => own - 1
  | _ => own

/-- No step acts on anything below so many cursors. -/
def staysAbove : Nat → List Step → Bool
  | _, [] => true
  | 0, .fresh :: steps => staysAbove 1 steps
  | 0, _ :: _ => false
  | own + 1, step :: steps => staysAbove (step.height (own + 1)) steps

/-- The answer where there are more cursors below. -/
def Answer.above (more : Nat) : Answer → Answer
  | .depth size => .depth (size + more)
  | answer => answer

theorem length_apply (top : Cursor) (below : Stack) (step : Step) :
    (step.apply top below).2.length = step.height (below.length + 1) := by
  cases step <;> rfl

theorem apply_append (top : Cursor) (below more : Stack) (step : Step) :
    (step.apply top (below ++ more)).1 = (step.apply top below).1.above more.length ∧
      (step.apply top (below ++ more)).2 = (step.apply top below).2 ++ more := by
  have depth : (below ++ more).length = below.length + more.length := List.length_append
  cases step with
  | fresh | fork =>
    exact ⟨congrArg Answer.depth (by omega), rfl⟩
  | drop => exact ⟨congrArg Answer.depth depth, rfl⟩
  | _ => exact ⟨rfl, rfl⟩

/-- What stands below is left as it is, and has no part in the answers. -/
theorem run_append {above : Stack} {steps : List Step} (stays : staysAbove above.length steps)
    (below : Stack) :
    Stack.run (above ++ below) steps = (above.run steps).map (·.above below.length) ∧
      Stack.after (above ++ below) steps = above.after steps ++ below := by
  induction steps generalizing above with
  | nil => simp [Stack.run, Stack.after]
  | cons step steps ih =>
    cases above with
    | nil =>
      -- With nothing on top only a fresh cursor may come.
      cases step with
      | fresh =>
        have alone : staysAbove [start].length steps := stays
        obtain ⟨answers, left⟩ := ih alone
        rw [List.nil_append, (run_fresh below steps).1, (run_fresh below steps).2]
        rw [(run_fresh [] steps).1, (run_fresh [] steps).2, ← left]
        exact ⟨congrArg₂ List.cons (congrArg Answer.depth (Nat.add_comm _ _)) answers, rfl⟩
      | _ => cases stays
    | cons top above =>
      rw [List.length_cons, staysAbove, ← length_apply top] at stays
      obtain ⟨answers, left⟩ := ih stays
      obtain ⟨answer, rest⟩ := apply_append top above below step
      rw [List.cons_append, run_cons, Stack.after, answer, rest, answers, left, run_cons,
        Stack.after]
      exact ⟨rfl, rfl⟩

/-! ## One cursor -/

namespace Step

/-- The step acts on the cursor at the top and not on the stack. -/
def isOwn : Step → Bool
  | .fresh | .fork | .drop => false
  | _ => true

/-- The step gives every key that it passes. -/
def isRead : Step → Bool
  | .next | .take _ => true
  | _ => false

/-- The keys that a step has given, by its answer. -/
def given : Step → Answer → List Key
  | .next, .key key | .nth _, .key key => key.toList
  | .take _, .keys keys => keys
  | .find key, .place (some _) => [key]
  | _, _ => []

/-- The step has asked for more keys than there were. -/
def overshoots : Step → Answer → Bool
  | .next, .key none | .nth _, .key none | .find _, .place none => true
  | .take n, .keys keys => keys.length < n
  | _, _ => false

/-- The answer of a cursor that is used up. -/
def nothing : Step → Answer
  | .take _ => .keys []
  | .find _ => .place none
  | .count | .sum => .number 0
  | _ => .key none

theorem mem_of_idxOf? {keys : List Key} {key : Key} {i : Nat} (found : keys.idxOf? key = some i) :
    key ∈ keys := by
  by_contra absent
  rw [List.idxOf?_eq_none_iff.2 absent] at found
  cases found

/-- What a step gives stands before what it leaves, and nothing that it passes comes back. -/
theorem given_append_sublist (keys : List Key) (below : Nat) (step : Step) :
    (step.given (step.answer keys below) ++ keys.drop (step.passes keys)).Sublist keys := by
  cases step with
  | next => cases keys <;> exact .refl _
  | nth n =>
    have front : (keys[n]?).toList ++ keys.drop (n + 1) = keys.drop n :=
      List.drop_eq_getElem?_toList_append.symm
    exact front ▸ List.drop_sublist n keys
  | take n =>
    have whole : keys.take n ++ keys.drop n = keys := List.take_append_drop n keys
    exact whole.symm ▸ .refl _
  | find key =>
    cases found : keys.idxOf? key with
    | none =>
      simp only [answer, found, given, List.nil_append]
      exact List.drop_sublist _ keys
    | some i =>
      -- The key that was looked for stands where it was found.
      have front : [key] ++ keys.drop (keys.idxOf key + 1) = keys.drop (keys.idxOf key) := by
        rw [List.drop_eq_getElem?_toList_append (i := keys.idxOf key),
          List.getElem?_idxOf (mem_of_idxOf? found)]
        rfl
      simp only [answer, found, given, passes]
      exact front ▸ List.drop_sublist _ keys
  | _ => exact .refl _

theorem given_append_of_isRead {step : Step} (read : step.isRead) (keys : List Key) (below : Nat) :
    step.given (step.answer keys below) ++ keys.drop (step.passes keys) = keys := by
  cases step with
  | next => cases keys <;> rfl
  | take n => exact List.take_append_drop n keys
  | _ => cases read

/-- There is nothing left where a step has asked for more. -/
theorem drop_of_overshoots {step : Step} {keys : List Key} {below : Nat}
    (beyond : step.overshoots (step.answer keys below)) : keys.drop (step.passes keys) = [] := by
  cases step with
  | next =>
    cases keys with
    | nil => rfl
    | cons key keys => cases beyond
  | nth n =>
    cases found : keys[n]? with
    | none => exact List.drop_of_length_le (Nat.le_succ_of_le (List.getElem?_eq_none_iff.1 found))
    | some key =>
      simp only [answer, found, overshoots] at beyond
      cases beyond
  | take n =>
    simp only [answer, overshoots, List.length_take, decide_eq_true_eq] at beyond
    have short : keys.length ≤ n := by omega
    exact List.drop_of_length_le short
  -- A key that is not found has been looked for among all that were left.
  | find key =>
    cases found : keys.idxOf? key with
    | none =>
      have past := List.idxOf_eq_length (List.idxOf?_eq_none_iff.1 found)
      exact List.drop_of_length_le (Nat.le_succ_of_le past.ge)
    | some i =>
      simp only [answer, found, overshoots] at beyond
      cases beyond
  | _ => cases beyond

theorem answer_nil {step : Step} (own : step.isOwn) (below : Nat) :
    step.answer [] below = step.nothing := by
  cases step with
  | take n => exact congrArg Answer.keys List.take_nil
  | fresh | fork | drop => cases own
  | _ => rfl

end Step

/-- A step that is not for the stack moves the cursor at the top and nothing else. -/
theorem apply_own {step : Step} (own : step.isOwn) (c : Cursor) (below : Stack) :
    ∃ c', step.apply c below = (step.answer c.toList below.length, c' :: below) ∧
      c'.toList = c.toList.drop (step.passes c.toList) := by
  have others : List.Forall₂ Drains below (below.map toList) := forall₂_drains_iff.2 rfl
  obtain ⟨answer, rest⟩ := (drains_toList c).apply others step
  rw [List.length_map] at answer
  cases step with
  | fresh | fork | drop => cases own
  | _ =>
    cases rest with
    | cons drains _ => exact ⟨_, Prod.ext answer rfl, drains.toList_eq⟩

/-- All keys that steps have given, by their answers. -/
def givenBy (steps : List Step) (answers : List Answer) : List Key :=
  (List.zipWith Step.given steps answers).flatten

/-- What steps on one cursor make of it. -/
structure Used (c : Cursor) (below : Stack) (steps : List Step) (c' : Cursor) : Prop where
  after : Stack.after (c :: below) steps = c' :: below
  /-- The keys that it gives, and those that it has left, were ahead in this order. -/
  kept : (givenBy steps (Stack.run (c :: below) steps) ++ c'.toList).Sublist c.toList
  /-- Where it was not told to skip any, it has given all that it has not left. -/
  complete : (∀ step ∈ steps, step.isRead) →
    givenBy steps (Stack.run (c :: below) steps) ++ c'.toList = c.toList
  overshot : ∀ asked ∈ steps.zip (Stack.run (c :: below) steps), asked.1.overshoots asked.2 →
    c'.toList = []
  nothing : c.toList = [] → Stack.run (c :: below) steps = steps.map Step.nothing

theorem used_of_own {steps : List Step} (own : ∀ step ∈ steps, step.isOwn) (c : Cursor)
    (below : Stack) : ∃ c', Used c below steps c' := by
  induction steps generalizing c with
  | nil => exact ⟨c, rfl, .refl _, fun _ => rfl, nofun, fun _ => rfl⟩
  | cons step steps ih =>
    obtain ⟨ownStep, ownRest⟩ := List.forall_mem_cons.1 own
    obtain ⟨c₁, applied, left⟩ := apply_own ownStep c below
    obtain ⟨c', used⟩ := ih ownRest c₁
    have run : Stack.run (c :: below) (step :: steps) =
        step.answer c.toList below.length :: Stack.run (c₁ :: below) steps := by
      rw [run_cons, applied]
    have given : givenBy (step :: steps) (Stack.run (c :: below) (step :: steps)) =
        step.given (step.answer c.toList below.length) ++
          givenBy steps (Stack.run (c₁ :: below) steps) := by
      rw [run]
      rfl
    -- What the other steps give and leave is a part of what this one leaves.
    have front := step.given_append_sublist c.toList below.length
    rw [← left] at front
    have suffix : c'.toList.Sublist c₁.toList := (List.sublist_append_right _ _).trans used.kept
    refine ⟨c', ?_, ?_, ?_, ?_, ?_⟩
    · rw [Stack.after, applied, used.after]
    · rw [given, List.append_assoc]
      exact ((List.Sublist.refl _).append used.kept).trans front
    · intro reads
      obtain ⟨read, reads⟩ := List.forall_mem_cons.1 reads
      rw [given, List.append_assoc, used.complete reads, left, step.given_append_of_isRead read]
    · rw [run, List.zip_cons_cons]
      intro asked member beyond
      obtain rfl | later := List.mem_cons.1 member
      · have none : c₁.toList = [] := left.trans (Step.drop_of_overshoots beyond)
        exact List.sublist_nil.1 (none ▸ suffix)
      · exact used.overshot asked later beyond
    · intro none
      have still : c₁.toList = [] := by rw [left, none, List.drop_nil]
      rw [run, used.nothing still, none, Step.answer_nil ownStep, List.map_cons]

/-- Keys are ahead in increasing order, up to the last byte at most. -/
theorem increasing_toList (c : Cursor) :
    c.toList.Pairwise fun a b => a.index < b.index := by
  have bound := c.last.toNat_lt
  -- No place is beyond the last byte, so none wraps.
  have fits : c.first.toNat + c.remaining ≤ 256 ∨ c.remaining = 0 := by
    unfold remaining
    split <;> omega
  rw [toList, List.pairwise_map]
  refine List.Pairwise.imp_of_mem ?_ List.pairwise_lt_range'
  intro m n hm hn less
  rw [List.mem_range'_1] at hm hn
  rw [index_ofNat (by omega), index_ofNat (by omega)]
  exact less

/-- No key is given twice, or behind a later one, and none is ahead again that was given. -/
theorem Used.increasing {c c' : Cursor} {below : Stack} {steps : List Step}
    (used : Used c below steps c') :
    (givenBy steps (Stack.run (c :: below) steps) ++ c'.toList).Pairwise
      fun a b => a.index < b.index :=
  c.increasing_toList.sublist used.kept

/-- Once the key of the last byte is out there is none ahead. -/
theorem Used.ended {c c' : Cursor} {below : Stack} {steps : List Step}
    (used : Used c below steps c')
    (out : ofNat 255 ∈ givenBy steps (Stack.run (c :: below) steps)) : c'.toList = [] := by
  refine List.eq_nil_iff_forall_not_mem.2 fun key ahead => ?_
  have later := (List.pairwise_append.1 used.increasing).2.2 _ out key ahead
  have bound := key.index_lt
  rw [index_ofNat (by decide)] at later
  omega

/-! ## Stacks of lists -/

/-- A stack of cursors that steps drive is as good as one of lists. -/
structure Stack.AsLists (stack : Stack) (steps : List Step) : Prop where
  /-- Every answer is the one that the keys ahead give, and what is left ahead is what they leave. -/
  answers : Ahead.run (stack.map toList) steps =
    (stack.run steps, (stack.after steps).map toList)
  /-- Cursors below those that steps act on stay as they are and have no part in the answers. -/
  apart : ∀ above below, stack = above ++ below → staysAbove above.length steps →
    stack.run steps = (above.run steps).map (·.above below.length) ∧
      stack.after steps = above.after steps ++ below
  /-- The steps of one cursor use it up from the front. -/
  used : ∀ c below, stack = c :: below → (∀ step ∈ steps, step.isOwn) → ∃ c',
    Used c below steps c' ∧
      (givenBy steps (stack.run steps) ++ c'.toList).Pairwise (fun a b => a.index < b.index) ∧
      (ofNat 255 ∈ givenBy steps (stack.run steps) → c'.toList = [])

/-- Whatever is done to a stack of cursors, the answers are those of the lists of keys ahead of
them, at first the whole key space. Copies and fresh cursors have nothing to do with each other, no
key is skipped or comes again, and a cursor that is used up stays so. -/
theorem Stack.asLists :
    start.toList = Key.all ∧ ∀ (stack : Stack) (steps : List Step), stack.AsLists steps := by
  refine ⟨toList_start, fun stack steps => ⟨?_, ?_, ?_⟩⟩
  · obtain ⟨answers, left⟩ := run_ahead (forall₂_drains_iff.2 (Eq.refl (stack.map toList))) steps
    exact Prod.ext answers.symm (forall₂_drains_iff.1 left)
  · rintro above below rfl stays
    exact run_append stays below
  · rintro c below rfl own
    obtain ⟨c', used⟩ := used_of_own own c below
    exact ⟨c', used, used.increasing, used.ended⟩

/-- A copy is used up while the cursor below it stands before the last key. -/
example : Stack.run [start] [.nth 253, .fork, .take 3, .next, .drop, .nth 1, .nth (2 ^ 64), .next] =
    [.key (some (ofNat 253)), .depth 2, .keys [ofNat 254, ofNat 255], .key none, .depth 1,
      .key (some (ofNat 255)), .key none, .key none] := by
  decide +kernel

end VectorFetch.Key.Cursor

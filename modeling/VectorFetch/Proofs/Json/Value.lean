import VectorFetch.Json.Value

/-!
# Equality and members of values

* `Value.beq_iff_eq`: the comparison of values decides their equality.
* `Members.insert`: what it keeps.
-/

namespace VectorFetch.Json

/-! ## Equality -/

mutual

theorem Value.eq_of_beq {a b : Value} (same : a.beq b) : a = b := by
  cases a <;> cases b <;> simp only [Value.beq, Bool.false_eq_true] at same
  case null => rfl
  case bool => rw [beq_iff_eq.1 same]
  case number => rw [beq_iff_eq.1 same]
  case string => rw [beq_iff_eq.1 same]
  case array => rw [eq_of_beqItems same]
  case object => rw [eq_of_beqMembers same]

theorem eq_of_beqItems {a b : List Value} (same : beqItems a b) : a = b := by
  cases a <;> cases b <;> simp only [beqItems, Bool.false_eq_true, Bool.and_eq_true] at same
  case nil => rfl
  case cons => rw [Value.eq_of_beq same.1, eq_of_beqItems same.2]

theorem eq_of_beqMembers {a b : Members} (same : beqMembers a b) : a = b := by
  match a, b with
  | [], [] => rfl
  | [], _ :: _ => cases same
  | _ :: _, [] => cases same
  | (m, v) :: as, (n, w) :: bs =>
    simp only [beqMembers, Bool.and_eq_true, beq_iff_eq] at same
    rw [same.1.1, Value.eq_of_beq same.1.2, eq_of_beqMembers same.2]

end

mutual

theorem Value.beq_self (a : Value) : a.beq a := by
  cases a <;> simp only [Value.beq, beq_self_eq_true]
  case array => exact beqItems_self _
  case object => exact beqMembers_self _

theorem beqItems_self (a : List Value) : beqItems a a := by
  cases a with
  | nil => rfl
  | cons v vs => simp only [beqItems, v.beq_self, beqItems_self vs, Bool.and_self]

theorem beqMembers_self (a : Members) : beqMembers a a := by
  match a with
  | [] => rfl
  | (m, v) :: vs =>
    simp only [beqMembers, v.beq_self, beqMembers_self vs, beq_self_eq_true, Bool.and_self]

end

/-- The comparison of values decides their equality. -/
theorem Value.beq_iff_eq {a b : Value} : a.beq b ↔ a = b :=
  ⟨eq_of_beq, fun same => same ▸ a.beq_self⟩

instance : DecidableEq Value := fun _ _ => decidable_of_iff _ Value.beq_iff_eq

instance decidableEqExcept {ε α : Type} [DecidableEq ε] [DecidableEq α] :
    DecidableEq (Except ε α)
  | .error a, .error b => decidable_of_iff (a = b) (by simp)
  | .ok a, .ok b => decidable_of_iff (a = b) (by simp)
  | .error _, .ok _ => .isFalse nofun
  | .ok _, .error _ => .isFalse nofun

/-! ## Members -/

namespace Members

theorem insert_ne_nil (members : Members) (name : String) (value : Value) :
    members.insert name value ≠ [] := by
  cases members with
  | nil => simp [insert]
  | cons => simp only [insert]; split <;> simp

theorem eq_or_mem_of_mem_insert {members : Members} {name : String} {value : Value} {member : String × Value}
    (present : member ∈ members.insert name value) : member = (name, value) ∨ member ∈ members := by
  induction members with
  | nil => exact .inl (by simpa [insert] using present)
  | cons first rest ih =>
    obtain ⟨n, v⟩ := first
    simp only [insert] at present
    split at present
    next same =>
      subst same
      rcases List.mem_cons.1 present with rfl | later
      · exact .inl rfl
      · exact .inr (.tail _ later)
    next =>
      rcases List.mem_cons.1 present with rfl | later
      · exact .inr (.head _)
      · exact (ih later).imp_right (.tail _)

theorem head?_insert {members : Members} {name : String} {value : Value} (present : members ≠ []) :
    (members.insert name value).head?.map Prod.fst = members.head?.map Prod.fst := by
  cases members with
  | nil => exact absurd rfl present
  | cons first rest =>
    simp only [insert]
    split <;> rfl

theorem insert_of_not_mem {members : Members} {name : String} (value : Value)
    (new : name ∉ members.map Prod.fst) : members.insert name value = members ++ [(name, value)] := by
  induction members with
  | nil => rfl
  | cons first rest ih =>
    obtain ⟨n, v⟩ := first
    have other : n ≠ name := by rintro rfl; simp at new
    have later : name ∉ rest.map Prod.fst := by simp_all
    simp [insert, other, ih later]

end Members

end VectorFetch.Json

import VectorFetch.Proofs.Toml.Section

/-!
# Keys of tables

* `Item.IsDistinct`, `Members.IsDistinct`: no table of a value has a key twice, at any depth.
* `IsDistinct.edit?`: a change that keeps this at the end of a path keeps it everywhere.
* `isDistinct_of_value?`, `isDistinct_of_parse?`: it is so for every value and every document that
  is read.
* `Members.lookup?_eq_some_iff`: a key with its value is found wherever it stands.
-/

namespace VectorFetch.Toml

/-- The keys of a table. -/
def Members.keys (members : Members) : List String := members.map fun entry => entry.1.text

/-- No table in a value has a key twice. -/
inductive Item.IsDistinct : Item → Prop where
  | scalar (span : Span) (value : Scalar) : IsDistinct (.scalar span value)
  | array (span : Span) {items : List Item} (each : ∀ item ∈ items, item.IsDistinct) :
    IsDistinct (.array span items)
  | table (span : Option Span) (form : Form) {members : Members} (keys : (Members.keys members).Nodup)
    (each : ∀ entry ∈ members, entry.2.IsDistinct) : IsDistinct (.table span form members)
  | tables {earlier : List Item} (span : Span) {latest : Members}
    (before : ∀ item ∈ earlier, item.IsDistinct) (keys : (Members.keys latest).Nodup)
    (each : ∀ entry ∈ latest, entry.2.IsDistinct) : IsDistinct (.tables earlier span latest)

/-- No table in the values of a table has a key twice, and the table has none twice. -/
structure Members.IsDistinct (members : Members) : Prop where
  keys : members.keys.Nodup
  each : ∀ entry ∈ members, entry.2.IsDistinct

namespace Members

variable {members after : Members} {key : String} {item : Item}

/-! ## Keys and values -/

theorem mem_of_lookup? (found : members.lookup? key = some item) :
    ∃ name : Name, name.text = key ∧ (name, item) ∈ members := by
  induction members with
  | nil => cases found
  | cons entry members ih =>
    obtain ⟨name, own⟩ := entry
    rw [lookup?] at found
    split at found
    next same =>
      cases found
      exact ⟨name, same, List.mem_cons_self⟩
    next =>
      obtain ⟨name, same, member⟩ := ih found
      exact ⟨name, same, List.mem_cons_of_mem _ member⟩

theorem mem_keys_of_mem {entry : Name × Item} (member : entry ∈ members) :
    entry.1.text ∈ members.keys := List.mem_map_of_mem member

/-- With distinct keys the order of the members does not matter. -/
theorem lookup?_eq_some_iff (distinct : members.keys.Nodup) :
    members.lookup? key = some item ↔ ∃ name : Name, name.text = key ∧ (name, item) ∈ members := by
  refine ⟨mem_of_lookup?, ?_⟩
  rintro ⟨name, rfl, member⟩
  induction members with
  | nil => cases member
  | cons entry members ih =>
    obtain ⟨fresh, rest⟩ := List.nodup_cons.1 distinct
    rcases List.mem_cons.1 member with rfl | later
    · exact if_pos rfl
    · have other : entry.1.text ≠ name.text := by
        intro same
        have again : entry.1.text ∈ keys members := same.symm ▸ mem_keys_of_mem later
        exact fresh again
      exact (if_neg other).trans (ih rest later)

theorem not_mem_keys_of_lookup? (missing : members.lookup? key = none) : key ∉ members.keys := by
  induction members with
  | nil => exact List.not_mem_nil
  | cons entry members ih =>
    obtain ⟨name, own⟩ := entry
    rw [lookup?] at missing
    split at missing
    next => cases missing
    next other => exact List.not_mem_cons_of_ne_of_not_mem (Ne.symm other) (ih missing)

theorem keys_replace (key : String) (item : Item) (members : Members) :
    (members.replace key item).keys = members.keys := by
  induction members with
  | nil => rfl
  | cons entry members ih =>
    obtain ⟨name, own⟩ := entry
    rw [replace]
    split
    next => rfl
    next => exact congrArg (name.text :: ·) ih

theorem mem_replace {entry : Name × Item} (member : entry ∈ members.replace key item) :
    entry ∈ members ∨ entry.2 = item := by
  induction members with
  | nil => cases member
  | cons first members ih =>
    obtain ⟨name, own⟩ := first
    rw [replace] at member
    split at member
    next =>
      rcases List.mem_cons.1 member with rfl | later
      · exact .inr rfl
      · exact .inl (List.mem_cons_of_mem _ later)
    next =>
      rcases List.mem_cons.1 member with rfl | later
      · exact .inl List.mem_cons_self
      · exact (ih later).imp_left (List.mem_cons_of_mem _)

theorem erase_sublist (key : String) (members : Members) : (members.erase key).Sublist members := by
  induction members with
  | nil => exact .slnil
  | cons entry members ih =>
    obtain ⟨name, own⟩ := entry
    rw [erase]
    split
    next => exact List.sublist_cons_self _ _
    next => exact ih.cons_cons _

theorem not_mem_keys_erase (distinct : members.keys.Nodup) : key ∉ (members.erase key).keys := by
  induction members with
  | nil => exact List.not_mem_nil
  | cons entry members ih =>
    obtain ⟨name, own⟩ := entry
    obtain ⟨fresh, rest⟩ := List.nodup_cons.1 distinct
    rw [erase]
    split
    next same => exact same ▸ fresh
    next other => exact List.not_mem_cons_of_ne_of_not_mem (Ne.symm other) (ih rest)

/-! ## Changes -/

namespace IsDistinct

theorem nil : IsDistinct [] := ⟨List.nodup_nil, nofun⟩

theorem lookup? (distinct : members.IsDistinct) (found : members.lookup? key = some item) :
    item.IsDistinct := by
  obtain ⟨name, -, member⟩ := mem_of_lookup? found
  exact distinct.each _ member

theorem snoc (distinct : members.IsDistinct) {name : Name} (fresh : name.text ∉ members.keys)
    (own : item.IsDistinct) : IsDistinct (members ++ [(name, item)]) where
  keys := by
    rw [Members.keys, List.map_append]
    refine List.nodup_append.2 ⟨distinct.keys, by simp, ?_⟩
    rintro text there _ (_ | ⟨_, ⟨⟩⟩) rfl
    exact fresh there
  each := by
    simpa [or_imp, forall_and] using ⟨fun a b => distinct.each (a, b), own⟩

theorem replace (distinct : members.IsDistinct) (own : item.IsDistinct) (key : String) :
    (members.replace key item).IsDistinct where
  keys := (keys_replace key item members).symm ▸ distinct.keys
  each entry member := (mem_replace member).elim (distinct.each entry) (fun same => same.symm ▸ own)

theorem erase (distinct : members.IsDistinct) (key : String) :
    (members.erase key).IsDistinct where
  keys := distinct.keys.sublist ((erase_sublist key members).map _)
  each entry member := distinct.each entry ((erase_sublist key members).subset member)

theorem edit? {change : Members → Option Members}
    (keeps : ∀ {before after : Members}, before.IsDistinct → change before = some after →
      after.IsDistinct)
    {route : Route} {path : List Name} (distinct : members.IsDistinct)
    (edited : members.edit? route change path = some after) : after.IsDistinct := by
  -- By induction on the path: what a change keeps at its end is kept on the way.
  induction path generalizing members after with
  | nil => exact keeps distinct edited
  | cons name path ih =>
    rw [Members.edit?] at edited
    split at edited
    next missing =>
      obtain ⟨below, made, rfl⟩ := Option.map_eq_some_iff.1 edited
      -- A table that is missing is made for the rest of the path.
      have inner := ih nil made
      exact distinct.snoc (not_mem_keys_of_lookup? missing) (.table _ _ inner.keys inner.each)
    next found =>
      split at edited
      next =>
        obtain ⟨below, made, rfl⟩ := Option.map_eq_some_iff.1 edited
        cases distinct.lookup? found with
        | table _ _ keys each =>
          have inner := ih ⟨keys, each⟩ made
          exact distinct.replace (.table _ _ inner.keys inner.each) _
      next => cases edited
    next found =>
      split at edited
      next =>
        obtain ⟨latest, made, rfl⟩ := Option.map_eq_some_iff.1 edited
        cases distinct.lookup? found with
        | tables _ before keys each =>
          have inner := ih ⟨keys, each⟩ made
          exact distinct.replace (.tables _ before inner.keys inner.each) _
      next => cases edited
    next => cases edited

theorem append? {name : Name} (own : item.IsDistinct) {before : Members}
    (distinct : before.IsDistinct) (added : before.append? name item = some after) :
    after.IsDistinct := by
  unfold Members.append? at added
  split at added
  next => cases added
  next missing =>
    cases added
    exact distinct.snoc (not_mem_keys_of_lookup? missing) own

theorem insertAll? {pairs : List (KeyPath × Item)} (own : ∀ pair ∈ pairs, pair.2.IsDistinct)
    (distinct : members.IsDistinct) (inserted : Members.insertAll? pairs members = some after) :
    after.IsDistinct := by
  induction pairs generalizing members with
  | nil =>
    cases inserted
    exact distinct
  | cons pair pairs ih =>
    obtain ⟨path, item⟩ := pair
    rw [List.forall_mem_cons] at own
    obtain ⟨next, one, others⟩ := Option.bind_eq_some_iff.1 inserted
    exact ih own.2 (distinct.edit? (append? own.1) one) others

end IsDistinct

end Members

/-! ## Sections -/

namespace Section

variable {s : Section} {before after : Members}

theorem openTable?_distinct (own : ∀ pair ∈ s.pairs, pair.2.IsDistinct)
    (distinct : before.IsDistinct) (opened : s.openTable? before = some after) :
    after.IsDistinct := by
  unfold openTable? at opened
  split at opened
  next missing =>
    obtain ⟨filled, made, rfl⟩ := Option.map_eq_some_iff.1 opened
    have inner := Members.IsDistinct.nil.insertAll? own made
    exact distinct.snoc (Members.not_mem_keys_of_lookup? missing) (.table _ _ inner.keys inner.each)
  next found =>
    obtain ⟨filled, made, rfl⟩ := Option.map_eq_some_iff.1 opened
    cases distinct.lookup? found with
    | table _ _ keys each =>
      have inner := Members.IsDistinct.insertAll? own ⟨keys, each⟩ made
      exact (distinct.erase _).snoc (Members.not_mem_keys_erase distinct.keys)
        (.table _ _ inner.keys inner.each)
  next => cases opened

theorem openNext?_distinct (own : ∀ pair ∈ s.pairs, pair.2.IsDistinct)
    (distinct : before.IsDistinct) (opened : s.openNext? before = some after) :
    after.IsDistinct := by
  unfold openNext? at opened
  split at opened
  next missing =>
    obtain ⟨filled, made, rfl⟩ := Option.map_eq_some_iff.1 opened
    have inner := Members.IsDistinct.nil.insertAll? own made
    exact distinct.snoc (Members.not_mem_keys_of_lookup? missing)
      (.tables _ nofun inner.keys inner.each)
  next found =>
    obtain ⟨filled, made, rfl⟩ := Option.map_eq_some_iff.1 opened
    cases distinct.lookup? found with
    | tables _ earlier keys each =>
      have inner := Members.IsDistinct.nil.insertAll? own made
      refine distinct.replace (.tables _ ?_ inner.keys inner.each) _
      -- The table that was the latest one joins those before it.
      simpa [or_imp, forall_and] using ⟨earlier, Item.IsDistinct.table _ _ keys each⟩
  next => cases opened

end Section

theorem Members.IsDistinct.addSections? {members after : Members} {sections : List Section}
    (own : ∀ s ∈ sections, ∀ pair ∈ s.pairs, pair.2.IsDistinct) (distinct : members.IsDistinct)
    (added : Members.addSections? sections members = some after) : after.IsDistinct := by
  induction sections generalizing members with
  | nil =>
    cases added
    exact distinct
  | cons s sections ih =>
    rw [List.forall_mem_cons] at own
    obtain ⟨next, one, others⟩ := Option.bind_eq_some_iff.1 added
    refine ih own.2 ?_ others
    unfold Members.addSection? at one
    split at one
    next => exact distinct.edit? (Section.openNext?_distinct own.1) one
    next => exact distinct.edit? (Section.openTable?_distinct own.1) one

/-! ## Values -/

section

variable {item : List Char → Option (Item × List Char)}

theorem isDistinct_of_items? (each : ∀ {s value rest}, item s = some (value, rest) → value.IsDistinct)
    {fuel : Nat} {s rest : List Char} {items : List Item}
    (read : items? item fuel s = some (items, rest)) : ∀ value ∈ items, value.IsDistinct := by
  induction fuel generalizing s items rest with
  | zero => cases read
  | succ fuel ih =>
    rw [items?] at read
    obtain ⟨behind, -, read⟩ := Option.bind_eq_some_iff.1 read
    split at read
    next =>
      cases read
      exact nofun
    next =>
      obtain ⟨⟨first, behind⟩, one, read⟩ := Option.bind_eq_some_iff.1 read
      obtain ⟨next, -, read⟩ := Option.bind_eq_some_iff.1 read
      split at read
      next =>
        obtain ⟨⟨others, rest⟩, more, read⟩ := Option.bind_eq_some_iff.1 read
        cases read
        exact List.forall_mem_cons.2 ⟨each one, ih more⟩
      next =>
        cases read
        exact List.forall_mem_singleton.2 (each one)
      next => cases read

theorem isDistinct_of_pair? (each : ∀ {s value rest}, item s = some (value, rest) → value.IsDistinct)
    {s rest : List Char} {pair : KeyPath × Item} (read : pair? item s = some (pair, rest)) :
    pair.2.IsDistinct := by
  obtain ⟨⟨path, behind⟩, -, read⟩ := Option.bind_eq_some_iff.1 read
  dsimp only at read
  split at read
  next =>
    obtain ⟨⟨value, rest⟩, one, read⟩ := Option.bind_eq_some_iff.1 read
    cases read
    exact each one
  next => cases read

theorem isDistinct_of_entries?
    (each : ∀ {s value rest}, item s = some (value, rest) → value.IsDistinct) {fuel : Nat}
    {s rest : List Char} {pairs : List (KeyPath × Item)}
    (read : entries? item fuel s = some (pairs, rest)) : ∀ pair ∈ pairs, pair.2.IsDistinct := by
  induction fuel generalizing s pairs rest with
  | zero => cases read
  | succ fuel ih =>
    rw [entries?] at read
    obtain ⟨⟨first, behind⟩, one, read⟩ := Option.bind_eq_some_iff.1 read
    dsimp only at read
    split at read
    next =>
      obtain ⟨⟨others, rest⟩, more, read⟩ := Option.bind_eq_some_iff.1 read
      cases read
      exact List.forall_mem_cons.2 ⟨isDistinct_of_pair? each one, ih more⟩
    next =>
      cases read
      exact List.forall_mem_singleton.2 (isDistinct_of_pair? each one)
    next => cases read

theorem isDistinct_of_inline?
    (each : ∀ {s value rest}, item s = some (value, rest) → value.IsDistinct)
    {s rest : List Char} {members : Members} (read : inline? item s = some (members, rest)) :
    members.IsDistinct := by
  unfold inline? at read
  split at read
  next =>
    cases read
    exact .nil
  next =>
    obtain ⟨⟨pairs, behind⟩, some', read⟩ := Option.bind_eq_some_iff.1 read
    obtain ⟨filled, inserted, read⟩ := Option.bind_eq_some_iff.1 read
    cases read
    exact Members.IsDistinct.nil.insertAll? (isDistinct_of_entries? each some') inserted

end

theorem isDistinct_of_value? {levels : Nat} {s rest : List Char} {item : Item}
    (read : value? levels s = some (item, rest)) : item.IsDistinct := by
  -- A scalar is read both where no level is left and where nothing is opened.
  have scalar : ∀ {s rest : List Char} {item : Item},
      ((scalarValue? s).map fun read =>
        (Item.scalar (.between s read.2) read.1, read.2)) = some (item, rest) →
      item.IsDistinct := by
    intro s rest item read
    obtain ⟨⟨value, behind⟩, -, same⟩ := Option.map_eq_some_iff.1 read
    cases same
    exact .scalar _ _
  induction levels generalizing s item rest with
  | zero => exact scalar read
  | succ levels ih =>
    rw [value?] at read
    dsimp only at read
    split at read
    next =>
      obtain ⟨⟨items, behind⟩, inner, same⟩ := Option.map_eq_some_iff.1 read
      cases same
      exact .array _ (isDistinct_of_items? ih inner)
    next =>
      obtain ⟨⟨members, behind⟩, inner, same⟩ := Option.map_eq_some_iff.1 read
      cases same
      have inside := isDistinct_of_inline? ih inner
      exact .table _ _ inside.keys inside.each
    next => exact scalar read

/-! ## Documents -/

/-- A pair whose value has no key twice, or a header. -/
def Statement.IsDistinct : Statement → Prop
  | .pair _ item => item.IsDistinct
  | .header _ _ _ => True

theorem isDistinct_of_statement? {s rest : List Char} {statement : Statement}
    (read : statement? s = some (statement, rest)) : statement.IsDistinct := by
  -- A header has no value, whether it is one of a table or of a list of tables.
  have header : ∀ {repeated whole s statement rest},
      header? repeated whole s = some (statement, rest) → statement.IsDistinct := by
    intro repeated whole s statement rest read
    unfold header? at read
    obtain ⟨⟨path, s⟩, -, read⟩ := Option.bind_eq_some_iff.1 read
    obtain ⟨behind, -, read⟩ := Option.bind_eq_some_iff.1 read
    dsimp only at read
    split at read
    next =>
      obtain ⟨rest, -, read⟩ := Option.bind_eq_some_iff.1 read
      cases read
      trivial
    next =>
      cases read
      trivial
  unfold statement? at read
  split at read
  next => exact header read
  next => exact header read
  next =>
    obtain ⟨⟨⟨path, item⟩, behind⟩, one, same⟩ := Option.map_eq_some_iff.1 read
    cases same
    exact isDistinct_of_pair? isDistinct_of_value? one

theorem isDistinct_of_statementsFrom? {fuel : Nat} {s : List Char} {statements : List Statement}
    (read : statementsFrom? fuel s = some statements) : ∀ one ∈ statements, one.IsDistinct := by
  induction fuel generalizing s statements with
  | zero => cases read
  | succ fuel ih =>
    rw [statementsFrom?] at read
    split at read
    next =>
      cases read
      exact List.forall_mem_nil _
    next =>
      obtain ⟨rest, -, read⟩ := Option.bind_eq_some_iff.1 read
      exact ih read
    next =>
      split at read
      next => exact ih read
      next =>
        obtain ⟨⟨statement, rest⟩, one, read⟩ := Option.bind_eq_some_iff.1 read
        obtain ⟨behind, -, read⟩ := Option.bind_eq_some_iff.1 read
        obtain ⟨others, more, read⟩ := Option.bind_eq_some_iff.1 read
        cases read
        exact List.forall_mem_cons.2 ⟨isDistinct_of_statement? one, ih more⟩

theorem isDistinct_sections {statements : List Statement}
    (each : ∀ one ∈ statements, one.IsDistinct) :
    (∀ pair ∈ (sections statements).1, pair.2.IsDistinct) ∧
      ∀ s ∈ (sections statements).2, ∀ pair ∈ s.pairs, pair.2.IsDistinct := by
  induction statements with
  | nil => exact ⟨nofun, nofun⟩
  | cons statement statements ih =>
    rw [List.forall_mem_cons] at each
    obtain ⟨pairs, others⟩ := ih each.2
    cases statement with
    | pair path item => exact ⟨List.forall_mem_cons.2 ⟨each.1, pairs⟩, others⟩
    | header path repeated span => exact ⟨nofun, List.forall_mem_cons.2 ⟨pairs, others⟩⟩

/-- No key of a document is given twice, at any depth. -/
theorem isDistinct_of_parse? {text : String} {members : Members}
    (read : parse? text = some members) : members.IsDistinct := by
  obtain ⟨statements, found, read⟩ := Option.bind_eq_some_iff.1 read
  obtain ⟨pairs, others⟩ := isDistinct_sections (isDistinct_of_statementsFrom? found)
  obtain ⟨filled, inserted, read⟩ := Option.bind_eq_some_iff.1 read
  exact (Members.IsDistinct.nil.insertAll? pairs inserted).addSections? others read

end VectorFetch.Toml

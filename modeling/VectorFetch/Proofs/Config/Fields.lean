import Mathlib.Algebra.Group.Int.Defs
import VectorFetch.Config.Toml
import VectorFetch.Proofs.Toml.Distinct

/-!
# What a document sets

* `Setting`, `Field.setting?`: what a field may be set to, and what a value sets it to.
* `Filled`: settings with exactly the values given, and the others as they were.
* `Gives`: the value that a document has for a field, by its key or by its place.
* `parse_section`: which documents give a configuration, and which one.
-/

namespace VectorFetch

open Toml (Item Members Mismatch Name Scalar Span)

namespace Toml.Item

/-- A value without parts. -/
def scalar? : Item → Option Scalar
  | .scalar _ value => some value
  | _ => none

/-- The values of a list, also of one of tables. -/
def items? : Item → Option (List Item)
  | .array _ items => some items
  | .tables earlier span latest => some (earlier ++ [.table (some span) .header latest])
  | _ => none

/-- A table or a list. -/
def isSection : Item → Bool
  | .scalar _ _ => false
  | _ => true

end Toml.Item

namespace HttpSettings

/-! ## Settings of fields -/

/-- What a field can be set to. -/
inductive Setting where
  | number (n : Int)
  | boolean (b : Bool)
  deriving DecidableEq, Repr

/-- What a field is set to. A timeout may be missing. -/
def setting? (s : HttpSettings) : Field → Option Setting
  | .connectTimeoutSecs => s.connectTimeoutSecs.map fun seconds => .number seconds.toNat
  | .followRedirects => some (.boolean s.followRedirects)
  | .maxRedirections => some (.number s.maxRedirections.toNat)

/-- What a value sets a field to, if it is one for that field: a number that is not negative, a
boolean, and a number of 32 bits. -/
def Field.setting? (field : Field) (item : Item) : Option Setting :=
  match field, item.scalar? with
  | .connectTimeoutSecs, some (.integer n) => if 0 ≤ n.toInt then some (.number n.toInt) else none
  | .followRedirects, some (.boolean b) => some (.boolean b)
  | .maxRedirections, some (.integer n) =>
    if 0 ≤ n.toInt ∧ n.toInt < 2 ^ 32 then some (.number n.toInt) else none
  | _, _ => none

theorem Field.setting?_congr {a b : Item} (same : a.scalar? = b.scalar?) (field : Field) :
    field.setting? a = field.setting? b := by
  simp only [setting?, same]

theorem eq_of_setting? {s t : HttpSettings} (same : ∀ field, s.setting? field = t.setting? field) :
    s = t := by
  have timeout := same .connectTimeoutSecs
  have redirects := same .followRedirects
  have redirections := same .maxRedirections
  obtain ⟨a, b, c⟩ := s
  obtain ⟨a', b', c'⟩ := t
  simp only [setting?, Option.some.injEq, Setting.boolean.injEq, Setting.number.injEq,
    Int.natCast_inj, UInt32.toNat_inj] at redirects redirections
  subst redirects redirections
  -- Only the timeout may be missing, and then `same` says that it is missing on both sides.
  cases a with
  | none =>
    cases a' with
    | none => rfl
    | some seconds' => simp [setting?] at timeout
  | some seconds =>
    cases a' with
    | none => simp [setting?] at timeout
    | some seconds' =>
      simp only [setting?, Option.map_some, Option.some.injEq, Setting.number.injEq,
        Int.natCast_inj, UInt64.toNat_inj] at timeout
      rw [timeout]

/-! ## One field -/

/-- One field is set, and the others are as they were. -/
structure Sets (s : HttpSettings) (field : Field) (setting : Setting) (t : HttpSettings) : Prop where
  own : t.setting? field = some setting
  others : ∀ other, other ≠ field → t.setting? other = s.setting? other

section

variable (s : HttpSettings) {n : Int}

theorem sets_connectTimeoutSecs (positive : 0 ≤ n) (within : n < UInt64.size) :
    s.Sets .connectTimeoutSecs (.number n)
      { s with connectTimeoutSecs := some (UInt64.ofNat n.toNat) } where
  own := by
    have kept : (UInt64.ofNat n.toNat).toNat = n.toNat := UInt64.toNat_ofNat_of_lt' (by omega)
    simp only [setting?, Option.map_some, kept, Int.toNat_of_nonneg positive]
  others other ne := by
    cases other with
    | connectTimeoutSecs => exact absurd rfl ne
    | followRedirects => rfl
    | maxRedirections => rfl

theorem sets_followRedirects (b : Bool) :
    s.Sets .followRedirects (.boolean b) { s with followRedirects := b } where
  own := rfl
  others other ne := by
    cases other with
    | connectTimeoutSecs => rfl
    | followRedirects => exact absurd rfl ne
    | maxRedirections => rfl

theorem sets_maxRedirections (positive : 0 ≤ n) (within : n < UInt32.size) :
    s.Sets .maxRedirections (.number n)
      { s with maxRedirections := UInt32.ofNat n.toNat } where
  own := by
    have kept : (UInt32.ofNat n.toNat).toNat = n.toNat := UInt32.toNat_ofNat_of_lt' (by omega)
    simp only [setting?, kept, Int.toNat_of_nonneg positive]
  others other ne := by
    cases other with
    | connectTimeoutSecs => rfl
    | followRedirects => rfl
    | maxRedirections => exact absurd rfl ne

end

theorem natural_cases (wanted : Toml.Wanted) (bound : Nat) (place : Span) (item : Item) :
    (∃ n : Int64, item.scalar? = some (.integer n) ∧ 0 ≤ n.toInt ∧ n.toInt < bound ∧
      Config.natural wanted bound place item = .ok n.toInt.toNat) ∨
    (∀ n : Int64, item.scalar? = some (.integer n) → ¬(0 ≤ n.toInt ∧ n.toInt < bound)) ∧
      ∃ e, Config.natural wanted bound place item = .error e := by
  cases item with
  | scalar span value =>
    cases value with
    | integer n =>
      by_cases within : 0 ≤ n.toInt ∧ n.toInt < bound
      · exact .inl ⟨n, rfl, within.1, within.2, if_pos within⟩
      · refine .inr ⟨?_, _, if_neg within⟩
        rintro _ ⟨⟩
        exact within
    | string text => exact .inr ⟨nofun, _, rfl⟩
    | float x => exact .inr ⟨nofun, _, rfl⟩
    | boolean b => exact .inr ⟨nofun, _, rfl⟩
    | moment => exact .inr ⟨nofun, _, rfl⟩
  | array span items => exact .inr ⟨nofun, _, rfl⟩
  | table span form members => exact .inr ⟨nofun, _, rfl⟩
  | tables earlier span latest => exact .inr ⟨nofun, _, rfl⟩

theorem boolean_cases (place : Span) (item : Item) :
    (∃ b, item.scalar? = some (.boolean b) ∧ Config.boolean place item = .ok b) ∨
      (∀ b, item.scalar? ≠ some (.boolean b)) ∧ ∃ e, Config.boolean place item = .error e := by
  cases item with
  | scalar span value =>
    cases value with
    | boolean b => exact .inl ⟨b, rfl, rfl⟩
    | string text => exact .inr ⟨nofun, _, rfl⟩
    | integer n => exact .inr ⟨nofun, _, rfl⟩
    | float x => exact .inr ⟨nofun, _, rfl⟩
    | moment => exact .inr ⟨nofun, _, rfl⟩
  | array span items => exact .inr ⟨nofun, _, rfl⟩
  | table span form members => exact .inr ⟨nofun, _, rfl⟩
  | tables earlier span latest => exact .inr ⟨nofun, _, rfl⟩

/-- A value is refused, or it sets its field and nothing else. -/
theorem setField_cases (s : HttpSettings) (field : Field) (place : Span) (item : Item) :
    (∃ setting t, field.setting? item = some setting ∧ s.setField field place item = .ok t ∧
      s.Sets field setting t) ∨
    field.setting? item = none ∧ ∃ e, s.setField field place item = .error e := by
  cases field with
  | connectTimeoutSecs =>
    simp only [setField, Config.word64, Field.setting?]
    obtain ⟨n, is, positive, within, read⟩ | ⟨none, e, read⟩ :=
      natural_cases .word64 UInt64.size place item
    · rw [is, read]
      exact .inl ⟨.number n.toInt, _, if_pos positive, rfl, s.sets_connectTimeoutSecs positive within⟩
    · rw [read]
      refine .inr ⟨?_, e, rfl⟩
      split
      next n _ is =>
        -- No number of the document is too large for this field.
        have size : UInt64.size = 2 ^ 64 := rfl
        have below := n.toInt_lt
        exact if_neg fun positive => none n is ⟨positive, by omega⟩
      next absent _ => cases absent
      next absent _ => cases absent
      next => rfl
  | followRedirects =>
    simp only [setField, Field.setting?]
    obtain ⟨b, is, read⟩ | ⟨none, e, read⟩ := boolean_cases place item
    · rw [is, read]
      exact .inl ⟨.boolean b, _, rfl, rfl, s.sets_followRedirects b⟩
    · rw [read]
      refine .inr ⟨?_, e, rfl⟩
      split
      next absent _ => cases absent
      next b _ is => exact absurd is (none b)
      next absent _ => cases absent
      next => rfl
  | maxRedirections =>
    simp only [setField, Config.word32, Field.setting?]
    have size : UInt32.size = 2 ^ 32 := rfl
    obtain ⟨n, is, positive, within, read⟩ | ⟨none, e, read⟩ :=
      natural_cases .word32 UInt32.size place item
    · rw [is, read]
      exact .inl ⟨.number n.toInt, _, if_pos ⟨positive, by omega⟩, rfl,
        s.sets_maxRedirections positive within⟩
    · rw [read]
      refine .inr ⟨?_, e, rfl⟩
      split
      next absent _ => cases absent
      next absent _ => cases absent
      next n _ is => exact if_neg fun within => none n is ⟨within.1, by omega⟩
      next => rfl

/-! ## All fields -/

/-- Settings in which exactly the fields with a value are set, or the failure of one of them. -/
structure Filled (s : HttpSettings) (given : Field → Option Item)
    (result : Except Mismatch HttpSettings) : Prop where
  accepted : (∃ t, result = .ok t) ↔
    ∀ field item, given field = some item → (field.setting? item).isSome
  shows : ∀ t, result = .ok t → ∀ field, t.setting? field =
    match given field with
    | some item => field.setting? item
    | none => s.setting? field

namespace Filled

variable {s t : HttpSettings} {given others : Field → Option Item} {field : Field} {item : Item}
  {result : Except Mismatch HttpSettings}

theorem nil (nothing : ∀ field, given field = none) : Filled s given (.ok s) where
  accepted := by simp [nothing]
  shows := by
    rintro _ ⟨⟩ field
    rw [nothing field]

theorem refused (there : given field = some item) (bad : field.setting? item = none)
    (e : Mismatch) : Filled s given (.error e) where
  accepted := by
    refine ⟨nofun, fun all => ?_⟩
    have good := all field item there
    rw [bad] at good
    cases good
  shows := nofun

theorem cons {setting : Setting} (good : field.setting? item = some setting)
    (sets : s.Sets field setting t) (there : given field = some item)
    (once : others field = none) (same : ∀ other, other ≠ field → given other = others other)
    (rest : Filled t others result) : Filled s given result where
  accepted := by
    rw [rest.accepted]
    constructor
    · intro all other value found
      by_cases own : other = field
      · subst own
        rw [there] at found
        cases found
        rw [good]
        rfl
      · exact all other value (same other own ▸ found)
    · intro all other value found
      by_cases own : other = field
      · subst own
        rw [once] at found
        cases found
      · exact all other value ((same other own).trans found)
  shows := by
    intro last ended other
    rw [rest.shows last ended other]
    by_cases own : other = field
    · subst own
      rw [once, there]
      exact sets.own.trans good.symm
    · rw [same other own, sets.others other own]

/-- Values that differ in their places only give the same settings. -/
theorem toOption_eq {result' : Except Mismatch HttpSettings} (one : Filled s given result)
    (two : Filled s others result')
    (same : ∀ field, (given field).map Item.scalar? = (others field).map Item.scalar?) :
    result.toOption = result'.toOption := by
  have both : ∀ field, given field = none ∧ others field = none ∨
      ∃ a b, given field = some a ∧ others field = some b ∧ field.setting? a = field.setting? b := by
    intro field
    have alike := same field
    cases here : given field with
    | none =>
      rw [here, Option.map_none, eq_comm, Option.map_eq_none_iff] at alike
      exact .inl ⟨rfl, alike⟩
    | some a =>
      rw [here, Option.map_some, eq_comm, Option.map_eq_some_iff] at alike
      obtain ⟨b, there, alike⟩ := alike
      exact .inr ⟨a, b, rfl, there, Field.setting?_congr alike.symm field⟩
  -- Which of the two failures comes first may differ, but not whether there is one.
  have accepted : (∃ t, result = .ok t) ↔ ∃ t, result' = .ok t := by
    rw [one.accepted, two.accepted]
    refine forall_congr' fun field => ?_
    obtain ⟨here, there⟩ | ⟨a, b, here, there, alike⟩ := both field
    · rw [here, there]
    · simp only [here, there, Option.some.injEq, forall_eq', alike]
  cases result with
  | error e =>
    cases result' with
    | error e' => rfl
    | ok t' =>
      obtain ⟨_, ⟨⟩⟩ := accepted.2 ⟨t', rfl⟩
  | ok t =>
    obtain ⟨t', rfl⟩ := accepted.1 ⟨t, rfl⟩
    have equal : t = t' := by
      refine eq_of_setting? fun field => ?_
      rw [one.shows t rfl, two.shows t' rfl]
      obtain ⟨here, there⟩ | ⟨a, b, here, there, alike⟩ := both field
      · rw [here, there]
      · rw [here, there]
        exact alike
    rw [equal]

end Filled

/-! ## Tables and lists -/

theorem Field.key_injective {a b : Field} (same : a.key = b.key) : a = b := by
  cases a <;> cases b <;> first | rfl | exact absurd same (by decide)

theorem Field.ofKey?_eq_some_iff {key : String} {field : Field} :
    Field.ofKey? key = some field ↔ field.key = key := by
  constructor
  · intro found
    simpa using List.find?_some found
  · rintro rfl
    cases field <;> decide

/-- With distinct keys each field is set by the value of its key, wherever that stands. -/
theorem filled_setMembers (s : HttpSettings) {members : Members} (distinct : members.keys.Nodup) :
    Filled s (fun field => members.lookup? field.key) (s.setMembers members) := by
  -- By induction on the entries, of which the first one decides for its own field only.
  induction members generalizing s with
  | nil => exact .nil fun _ => rfl
  | cons entry members ih =>
    obtain ⟨name, item⟩ := entry
    obtain ⟨fresh, distinct⟩ := List.nodup_cons.1 distinct
    have skip : ∀ key : String, name.text ≠ key →
        Members.lookup? key ((name, item) :: members) = Members.lookup? key members :=
      fun key other => if_neg other
    rw [setMembers]
    split
    next unknown =>
      have same : ∀ field : Field, Members.lookup? field.key ((name, item) :: members) =
          Members.lookup? field.key members := by
        refine fun field => skip _ fun key => ?_
        rw [Field.ofKey?_eq_some_iff.2 key.symm] at unknown
        cases unknown
      simpa only [same] using ih s distinct
    next field known =>
      have key := Field.ofKey?_eq_some_iff.1 known
      have there : Members.lookup? field.key ((name, item) :: members) = some item :=
        if_pos key.symm
      obtain ⟨setting, t, good, set, sets⟩ | ⟨bad, e, set⟩ :=
        setField_cases s field name.span item
      · rw [set]
        refine .cons good sets there ?_ (fun other ne => skip _ ?_) (ih t distinct)
        · refine Toml.lookup?_eq_none fun other member same => fresh ?_
          have again : other.1.text ∈ Members.keys members := Members.mem_keys_of_mem member
          rwa [same, key] at again
        · rw [← key]
          exact fun same => ne (Field.key_injective same.symm)
      · rw [set]
        exact .refused there bad e

/-- Each field is set by the value in its place. -/
theorem filled_setItems (s : HttpSettings) (place : Span) {fields : List Field}
    (distinct : fields.Nodup) (items : List Item) :
    Filled s (fun field => (fields.zip items).lookup field) (s.setItems place fields items) := by
  induction fields generalizing s items with
  | nil => exact .nil fun _ => rfl
  | cons field fields ih =>
    cases items with
    | nil => exact .nil fun _ => rfl
    | cons item items =>
      -- The first value is that of the first field, and none of the later ones is for that field.
      obtain ⟨fresh, distinct⟩ := List.nodup_cons.1 distinct
      have there : ((field :: fields).zip (item :: items)).lookup field = some item := by simp
      rw [setItems]
      obtain ⟨setting, t, good, set, sets⟩ | ⟨bad, e, set⟩ := setField_cases s field place item
      · rw [set]
        refine .cons good sets there ?_ (fun other ne => ?_) (ih t distinct items)
        · refine List.lookup_eq_none_iff.2 fun entry member => ?_
          have one : entry.1 ∈ fields := (List.of_mem_zip member).1
          exact bne_iff_ne.2 fun same => fresh (same ▸ one)
        · rw [List.zip_cons_cons, List.lookup_cons, beq_false_of_ne ne]
      · rw [set]
        exact .refused there bad e

/-- The place of a field in a list. -/
def Field.place : Field → Nat
  | .connectTimeoutSecs => 0
  | .followRedirects => 1
  | .maxRedirections => 2

theorem Field.lookup_zip_all (field : Field) (items : List Item) :
    (Field.all.zip items).lookup field = items[field.place]? := by
  match items with
  | [] => rfl
  | [_] => cases field <;> rfl
  | [_, _] => cases field <;> rfl
  | _ :: _ :: _ :: _ => cases field <;> rfl

/-- The value for a field in a table or in a list. -/
def Field.in? (field : Field) : Item → Option Item
  | .table _ _ entries => Members.lookup? field.key entries
  | item => item.items?.bind fun items => items[field.place]?

theorem filled_ofItem (place : Span) {item : Item} (sec : item.isSection)
    (distinct : item.IsDistinct) : Filled .default (Field.in? · item) (ofItem place item) := by
  have each : Field.all.Nodup := by decide
  cases distinct with
  | scalar span value => cases sec
  | array span =>
    simp only [Field.in?, Item.items?, Option.bind_some, ← Field.lookup_zip_all]
    exact filled_setItems .default span each _
  | table span form keys => exact filled_setMembers .default keys
  | tables span =>
    simp only [Field.in?, Item.items?, Option.bind_some, ← Field.lookup_zip_all]
    exact filled_setItems .default _ each _

end HttpSettings

/-! ## Documents -/

namespace Config

open HttpSettings (Field)

/-- A document has a value for a field: in a table under the key of the field, in a list in the
place of the field. -/
inductive Gives (members : Members) (field : Field) (item : Item) : Prop where
  | key {name own : Name} {span : Option Span} {form : Toml.Form} {entries : Members}
    (there : (name, .table span form entries) ∈ members) (http : name.text = httpKey)
    (entry : (own, item) ∈ entries) (key : own.text = field.key)
  | place {name : Name} {list : Item} {items : List Item} (there : (name, list) ∈ members)
    (http : name.text = httpKey) (list : list.items? = some items)
    (place : items[field.place]? = some item)

/-- The value that a document has for a field. -/
def given? (members : Members) (field : Field) : Option Item :=
  (members.lookup? httpKey).bind field.in?

theorem gives_iff {members : Members} (distinct : members.IsDistinct) {field : Field}
    {item : Item} : Gives members field item ↔ given? members field = some item := by
  constructor
  · rintro (⟨there, http, entry, key⟩ | @⟨_, value, _, there, http, list, place⟩)
    · have found := (Members.lookup?_eq_some_iff distinct.keys).2 ⟨_, http, there⟩
      rw [given?, found]
      cases distinct.lookup? found with
      | table _ _ keys => exact (Members.lookup?_eq_some_iff keys).2 ⟨_, key, entry⟩
    · have found := (Members.lookup?_eq_some_iff distinct.keys).2 ⟨_, http, there⟩
      rw [given?, found]
      -- Only a list and a list of tables give values by their places.
      cases value with
      | scalar span value => cases list
      | array span items =>
        cases list
        exact place
      | table span form entries => cases list
      | tables earlier span latest =>
        cases list
        exact place
  · intro found
    obtain ⟨value, there, inner⟩ := Option.bind_eq_some_iff.1 found
    obtain ⟨name, http, member⟩ := Members.mem_of_lookup? there
    cases value with
    | scalar span value => cases inner
    | array span items => exact .place member http rfl inner
    | table span form entries =>
      obtain ⟨own, key, entry⟩ := Members.mem_of_lookup? inner
      exact .key member http entry key
    | tables earlier span latest => exact .place member http rfl inner

theorem ofMembers_cases (members : Members) :
    (members.lookup? httpKey = none ∧ ofMembers members = .ok .default) ∨
      ∃ item place, members.lookup? httpKey = some item ∧
        ofMembers members = (HttpSettings.ofItem place item).map Config.mk := by
  induction members with
  | nil => exact .inl ⟨rfl, rfl⟩
  | cons entry members ih =>
    obtain ⟨name, item⟩ := entry
    rw [Members.lookup?, ofMembers]
    by_cases http : name.text = httpKey
    · rw [if_pos http, if_pos http]
      exact .inr ⟨item, name.span, rfl, rfl⟩
    · rw [if_neg http, if_neg http]
      exact ih

theorem filled_ofMembers {members : Members} (distinct : members.IsDistinct)
    (sec : ∀ item, members.lookup? httpKey = some item → item.isSection) :
    ∃ result, ofMembers members = result.map Config.mk ∧
      HttpSettings.Filled .default (given? members) result := by
  obtain ⟨missing, read⟩ | ⟨item, place, found, read⟩ := ofMembers_cases members
  · refine ⟨.ok .default, read, .nil fun field => ?_⟩
    rw [given?, missing]
    rfl
  · have given : given? members = fun field => field.in? item := by
      funext field
      rw [given?, found]
      rfl
    exact ⟨_, read, given ▸ HttpSettings.filled_ofItem place (sec item found) (distinct.lookup? found)⟩

variable {text text' : String} {members members' : Members}

theorem gives_scalar_iff (distinct : members.IsDistinct) {field : Field} {value : Option Scalar} :
    (∃ item, Gives members field item ∧ item.scalar? = value) ↔
      (given? members field).map Item.scalar? = some value := by
  simp only [gives_iff distinct, Option.map_eq_some_iff]

theorem parse_toOption {result : Except Mismatch HttpSettings}
    (read : Toml.parse? text = some members) (is : ofMembers members = result.map Config.mk) :
    (parse text).toOption = result.toOption.map Config.mk := by
  rw [parse, read]
  dsimp only
  rw [is]
  cases result <;> rfl

theorem parse_eq_ok_iff {result : Except Mismatch HttpSettings}
    (read : Toml.parse? text = some members) (is : ofMembers members = result.map Config.mk)
    (config : Config) : parse text = .ok config ↔ result = .ok config.http := by
  rw [parse, read]
  dsimp only
  rw [is]
  cases result with
  | error e => exact ⟨nofun, nofun⟩
  | ok t => exact ⟨fun same => by cases same; rfl, fun same => by cases same; rfl⟩

/-- Which documents give a configuration, and which one. What is unknown, what follows in a list
and the order of keys do not matter, since `Gives` is the same with and without them. -/
theorem parse_section (read : Toml.parse? text = some members)
    (sec : ∀ item, members.lookup? httpKey = some item → item.isSection) :
    ((∃ config, parse text = .ok config) ↔
      ∀ field item, Gives members field item → (field.setting? item).isSome) ∧
    (∀ config, parse text = .ok config → ∀ field,
      (∀ item, Gives members field item → config.http.setting? field = field.setting? item) ∧
      ((∀ item, ¬Gives members field item) →
        config.http.setting? field = HttpSettings.default.setting? field)) ∧
    ∀ {text' members'}, Toml.parse? text' = some members' →
      (∀ item, members'.lookup? httpKey = some item → item.isSection) →
      (∀ field value, (∃ item, Gives members field item ∧ item.scalar? = value) ↔
        ∃ item, Gives members' field item ∧ item.scalar? = value) →
      (parse text).toOption = (parse text').toOption := by
  have distinct := Toml.isDistinct_of_parse? read
  obtain ⟨result, is, filled⟩ := filled_ofMembers distinct sec
  have ok := parse_eq_ok_iff read is
  refine ⟨?_, ?_, ?_⟩
  · simp only [gives_iff distinct, ← filled.accepted, ok]
    exact ⟨fun ⟨config, read⟩ => ⟨_, read⟩, fun ⟨t, read⟩ => ⟨⟨t⟩, read⟩⟩
  · intro config accepted field
    have shown := filled.shows config.http ((ok config).1 accepted) field
    simp only [gives_iff distinct]
    constructor
    · intro item given
      rwa [given] at shown
    · intro missing
      rwa [Option.eq_none_iff_forall_ne_some.2 missing] at shown
  · intro text' members' read' sec' same
    have distinct' := Toml.isDistinct_of_parse? read'
    obtain ⟨result', is', filled'⟩ := filled_ofMembers distinct' sec'
    rw [parse_toOption read is, parse_toOption read' is']
    -- Both settings are filled with the same values, so that their places do not matter.
    refine congrArg (Option.map Config.mk) (filled.toOption_eq filled' fun field => ?_)
    refine Option.ext fun value => ?_
    rw [← gives_scalar_iff distinct, ← gives_scalar_iff distinct']
    exact same field value

/-- A list with one value too many, and a table in another order with an unknown key. -/
theorem parse_section_of_list_and_table :
    let list := "http = [7, false, 3, 9]"
    let table := "[http]\nmax_redirections = 3\nretries = 2\nfollow_redirects = false\n" ++
      "connect_timeout_secs = 7"
    parse list = .ok ⟨⟨some 7, false, 3⟩⟩ ∧ (parse list).toOption = (parse table).toOption := by
  intro list table
  refine ⟨by decide +kernel, ?_⟩
  -- The members are known to exist, and only what is looked up in them is evaluated.
  obtain ⟨inList, read⟩ : ∃ members, Toml.parse? list = some members :=
    Option.isSome_iff_exists.1 (by decide +kernel)
  obtain ⟨inTable, read'⟩ : ∃ members, Toml.parse? table = some members :=
    Option.isSome_iff_exists.1 (by decide +kernel)
  have sec : ((Toml.parse? list).bind (·.lookup? httpKey)).all (·.isSection) := by decide +kernel
  have sec' : ((Toml.parse? table).bind (·.lookup? httpKey)).all (·.isSection) := by decide +kernel
  have same : ∀ field, ((Toml.parse? list).bind (given? · field)).map Item.scalar? =
      ((Toml.parse? table).bind (given? · field)).map Item.scalar? := by
    intro field
    cases field <;> decide +kernel
  rw [read, Option.bind_some] at sec
  rw [read', Option.bind_some] at sec'
  simp only [read, read', Option.bind_some] at same
  refine (parse_section read fun item found => ?_).2.2 read' (fun item found => ?_) fun field value => ?_
  · rwa [found] at sec
  · rwa [found] at sec'
  · rw [gives_scalar_iff (Toml.isDistinct_of_parse? read),
      gives_scalar_iff (Toml.isDistinct_of_parse? read'), same]

end Config

end VectorFetch

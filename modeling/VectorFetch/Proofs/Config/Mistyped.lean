import VectorFetch.Proofs.Config.Fields
import VectorFetch.Proofs.Growth

/-!
# Sections of the wrong type

* `parse_of_scalar`: a value without parts in the place of the section is refused, but a date or a
  time is taken for a table with nothing in it.
* `load_of_read`: a file with a text that can be read is loaded as its text says.
* `load_mistyped`: what becomes of a configuration file whose section is a single value.
-/

namespace VectorFetch.Config

open Toml (Members Mismatch Name Scalar Span)

variable {text : String} {members : Members} {name : Name} {span : Span} {value : Scalar}

/-! ## Documents -/

/-- The mismatch of a single value and the section. -/
def sectionMismatch (span : Span) (value : Scalar) : Mismatch := ⟨.kind value.kind .settings, span⟩

theorem message_sectionMismatch (span : Span) (value : Scalar) :
    (sectionMismatch span value).message =
      "invalid type: " ++ value.kind ++ ", expected struct HttpConfig" := by
  have ending : ", expected " ++ Toml.Wanted.settings.text = ", expected struct HttpConfig" := by
    decide
  rw [← ending, ← String.append_assoc]
  rfl

theorem ofItem_of_scalar (place span : Span) (plain : value ≠ .moment) :
    HttpSettings.ofItem place (.scalar span value) = .error (sectionMismatch span value) := by
  cases value with
  | moment => exact absurd rfl plain
  | string | integer | float | boolean => rfl

theorem parse_of_scalar (read : Toml.parse? text = some members)
    (there : (name, .scalar span value) ∈ members) (http : name.text = httpKey) :
    parse text = if value = .moment then .ok .default
      else .error (.mismatch (sectionMismatch span value)) := by
  -- The keys of a document are distinct, so no other entry is looked at.
  have distinct := Toml.isDistinct_of_parse? read
  have found := (Members.lookup?_eq_some_iff distinct.keys).2 ⟨name, http, there⟩
  obtain ⟨missing, -⟩ | ⟨item, place, same, is⟩ := ofMembers_cases members
  · cases found.symm.trans missing
  · cases found.symm.trans same
    rw [parse, read]
    dsimp only
    rw [is]
    by_cases moment : value = .moment
    · subst moment
      rfl
    · rw [ofItem_of_scalar place span moment, if_neg moment]
      rfl

/-! ## Files -/

variable {σ : Type}

theorem load_of_read {env : Environment} {site : Site σ} (home : env.home.isSome)
    (holds : site.files.read site.cwd env.configPath = .ok (Utf8.encode text)) :
    (load env site).1 = (parse text).mapError (.parse env.configPath text) := by
  rw [load_of_isThere home (Files.isThere_of_read holds)]
  simp only [Config.read, holds, Utf8.text?_encode]
  cases parse text <;> rfl

/-- A string, a number or a truth value in the place of the section is refused for its type, and
nothing is loaded. A date or a time there goes unnoticed: it counts as a table with nothing in it,
and what is loaded is the configuration that is used when nothing is set. -/
theorem load_mistyped (read : Toml.parse? text = some members)
    (there : (name, .scalar span value) ∈ members) (http : name.text = httpKey) :
    (value ≠ .moment → ∃ mismatch : Mismatch, parse text = .error (.mismatch mismatch) ∧
      mismatch.span = span ∧
      mismatch.message = "invalid type: " ++ value.kind ++ ", expected struct HttpConfig" ∧
      ∀ {σ : Type} (env : Environment) (site : Site σ),
        site.files.read site.cwd env.configPath = .ok (Utf8.encode text) →
        (load env site).1.isOk = false ∧ (env.home.isSome →
          (load env site).1 = .error (.parse env.configPath text (.mismatch mismatch)))) ∧
    (value = .moment → parse text = .ok .default ∧
      ∀ {σ : Type} (env : Environment) (site : Site σ), env.home.isSome →
        site.files.read site.cwd env.configPath = .ok (Utf8.encode text) →
        (load env site).1 = .ok .default) := by
  have parsed := parse_of_scalar read there http
  constructor
  · intro plain
    rw [if_neg plain] at parsed
    refine ⟨sectionMismatch span value, parsed, rfl, message_sectionMismatch span value, ?_⟩
    intro σ env site holds
    have failed : env.home.isSome → (load env site).1 =
        .error (.parse env.configPath text (.mismatch (sectionMismatch span value))) := by
      intro home
      rw [load_of_read home holds, parsed]
      rfl
    refine ⟨?_, failed⟩
    cases home : env.home with
    | none =>
      rw [load_of_homeless home]
      rfl
    | some _ =>
      rw [failed (by rw [home]; rfl)]
      rfl
  · intro moment
    rw [if_pos moment] at parsed
    refine ⟨parsed, fun env site home holds => ?_⟩
    rw [load_of_read home holds, parsed]
    rfl

theorem exists_entry (there : ((Toml.parse? text).bind (·.lookup? httpKey)).bind Toml.Item.scalar? =
    some value) : ∃ members name span, Toml.parse? text = some members ∧
      (name, .scalar span value) ∈ members ∧ name.text = httpKey := by
  obtain ⟨item, found, single⟩ := Option.bind_eq_some_iff.1 there
  obtain ⟨members, read, found⟩ := Option.bind_eq_some_iff.1 found
  obtain ⟨name, http, member⟩ := Members.mem_of_lookup? found
  cases item with
  | scalar span own =>
    cases single
    exact ⟨members, name, span, read, member, http⟩
  | array | table | tables => cases single

/-- A string behind another key. -/
theorem load_mistyped_of_string :
    let text := "a = 1\nhttp = 'on'"
    let env : Environment := ⟨some "/h", none, none, none⟩
    let files : Files := ⟨[(["h"], .directory), (["h", ".config"], .directory),
      (["h", ".config", "tvfetch"], .directory),
      (["h", ".config", "tvfetch", "config.toml"], .file (Utf8.encode text) none)], []⟩
    let site : Site Unit := .start files [] () .unlimited
    ∃ mismatch : Mismatch, parse text = .error (.mismatch mismatch) ∧
      mismatch.message = "invalid type: string \"on\", expected struct HttpConfig" ∧
      (load env site).1 = .error (.parse env.configPath text (.mismatch mismatch)) := by
  intro text env files site
  have entry : ((Toml.parse? text).bind (·.lookup? httpKey)).bind Toml.Item.scalar? =
      some (.string "on") := by decide +kernel
  obtain ⟨members, name, span, read, there, http⟩ := exists_entry entry
  have holds : site.files.read site.cwd env.configPath = .ok (Utf8.encode text) := by decide +kernel
  have kind : "invalid type: " ++ (Scalar.string "on").kind ++ ", expected struct HttpConfig" =
      "invalid type: string \"on\", expected struct HttpConfig" := by decide +kernel
  obtain ⟨mismatch, parsed, -, message, loaded⟩ := (load_mistyped read there http).1 (by decide)
  exact ⟨mismatch, parsed, message.trans kind, (loaded env site holds).2 rfl⟩

/-- A date in the place of the section is accepted. -/
theorem load_accepts_date :
    let text := "http = 1979-05-27"
    let env : Environment := ⟨some "/h", none, none, none⟩
    let files : Files := ⟨[(["h"], .directory), (["h", ".config"], .directory),
      (["h", ".config", "tvfetch"], .directory),
      (["h", ".config", "tvfetch", "config.toml"], .file (Utf8.encode text) none)], []⟩
    let site : Site Unit := .start files [] () .unlimited
    (∃ members name span, Toml.parse? text = some members ∧
      (name, .scalar span .moment) ∈ members ∧ name.text = httpKey) ∧
      parse text = .ok .default ∧ (load env site).1 = .ok .default := by
  intro text env files site
  exact ⟨exists_entry (by decide +kernel), by decide +kernel, by decide +kernel⟩

end VectorFetch.Config

import VectorFetch.Program
import VectorFetch.Proofs.Failure.Chain

/-!
# What is said about a run that failed

* `Causes`: the texts for each failure of the program, from what it was at to what it is due to.
* `causes_chain`: they are the chain of the failure.
-/

namespace VectorFetch.Program

/-- The texts for a failure, from what the program was at to what the failure is due to. -/
inductive Causes (wording : Toml.Wording) : Failure → List String → Prop where
  | homeless : Causes wording (.config (.place .homeless)) ["load config", "$HOME must be set"]
  | unmade (e : IoError) :
      Causes wording (.config (.place (.directory e))) ("load config" :: e.message :: e.causes)
  | unread (e : IoError) :
      Causes wording (.config (.io e)) ("load config" :: e.message :: e.causes)
  | malformed (path : Path) (text : String) :
      Causes wording (.config (.parse path text .malformed))
        ["load config", "parse " ++ path.text, wording text]
  | mistyped (path : Path) (text : String) (mismatch : Toml.Mismatch) :
      Causes wording (.config (.parse path text (.mismatch mismatch)))
        ["load config", "parse " ++ path.text, mismatch.excerpt text]
  | output (e : IoError) :
      Causes wording (.batch (.output e)) ("progress output" :: e.message :: e.causes)
  | network (key : Key) (e : Http.TransferError) :
      Causes wording (.batch (.key ⟨key, .network e⟩))
        ["key " ++ key.text, "network error", e.message]
  | status (key : Key) (code : Nat) :
      Causes wording (.batch (.key ⟨key, .status code⟩)) ["key " ++ key.text, "HTTP " ++ code.repr]
  | document (key : Key) (e : Json.Error) :
      Causes wording (.batch (.key ⟨key, .json e⟩)) ["key " ++ key.text, "invalid JSON", e.message]
  | unwritten (key : Key) (path : Path) (e : IoError) :
      Causes wording (.batch (.key ⟨key, .io path e⟩))
        (("key " ++ key.text) :: ("write " ++ path.text) :: e.message :: e.causes)
  | url (key : Key) (fault : Url.Fault) :
      Causes wording (.batch (.key ⟨key, .url fault⟩))
        ["key " ++ key.text, "invalid URL", fault.message]

theorem causes_config (wording : Toml.Wording) (error : Config.LoadError) :
    Causes wording (.config error) ("load config" :: error.chain wording) := by
  cases error with
  | place error =>
    cases error with
    | homeless => exact .homeless
    | directory e => exact .unmade e
  | io e => exact .unread e
  | parse path text error =>
    cases error with
    | malformed => exact .malformed path text
    | mismatch mismatch => exact .mistyped path text mismatch

theorem causes_key (wording : Toml.Wording) (key : Key) (error : FetchError) :
    Causes wording (.batch (.key ⟨key, error⟩)) (BatchError.key ⟨key, error⟩).chain := by
  rw [BatchError.chain_key, FetchError.chain_eq]
  cases error with
  | network e => exact .network key e
  | status code => exact .status key code
  | json e => exact .document key e
  | io path e => exact .unwritten key path e
  | url fault => exact .url key fault

theorem causes_chain (wording : Toml.Wording) (failure : Failure) :
    Causes wording failure (failure.chain wording) := by
  cases failure with
  | config error => exact causes_config wording error
  | batch error =>
    cases error with
    | key failure => exact causes_key wording failure.key failure.error
    | output e =>
      have texts : Failure.chain wording (.batch (.output e)) = _ := BatchError.chain_output e
      rw [texts]
      exact .output e

end VectorFetch.Program

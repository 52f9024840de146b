import VectorFetch.Artifact

/-!
# Chains of errors

An error may be due to another one. It leaves the message of that one out, and who reports it adds
the message of its cause, of the cause of that, and so on.

* `Link`: an error of any kind, with its message and its cause (`Link.message`, `Link.cause?`).
* `Link.chain`: an error, what it is due to, and so on.
* `FetchError.chain`, `KeyFailure.chain`, `BatchError.chain`: what they say.
* `chainText`: a chain as one text.

By `rank_of_cause?` the chain ends, and `chain_eq` unfolds it by one link.
-/

namespace VectorFetch

/-- An error of any kind, as a link of a chain. -/
inductive Link where
  | batch (error : BatchError)
  | failure (failure : KeyFailure)
  | fetch (error : FetchError)
  | transfer (error : Http.TransferError)
  /-- A document that cannot be read or written. -/
  | document (error : WriteError)
  | io (error : IoError)
  | url (fault : Url.Fault)
  /-- A cause that a writer names for an error of its own, with what caused that. -/
  | foreign (text : String) (causes : List String)
  deriving DecidableEq, Repr

namespace Link

/-! ## Causes -/

/-- What an error says by itself. -/
def message : Link → String
  | .batch error => error.message
  | .failure f => f.message
  | .fetch error => error.message
  | .transfer error => error.message
  | .document error => error.message
  | .io error => error.message
  | .url fault => fault.message
  | .foreign text _ => text

/-- The first of the causes that a writer names. -/
def foreign? : List String → Option Link
  | [] => none
  | text :: causes => some (.foreign text causes)

/-- What an error of a fetch is due to. -/
def ofFetch? : FetchError → Option Link
  | .network error => some (.transfer error)
  | .status _ => none
  | .json error => some (.document (.document error))
  | .io _ error => some (.io error)
  | .url fault => some (.url fault)

/-- What a failure at a key is due to. -/
def ofFailure (f : KeyFailure) : Link := .fetch f.error

/-- What an error is due to, if it is known. An error that only passes another one on speaks for
it, so what comes next is what the other one is due to: this is how a failure at a key ends a run,
and how a document reports that a sink refused it. -/
def cause? : Link → Option Link
  | .batch (.key f) => some (ofFailure f)
  | .batch (.output error) => some (.io error)
  | .failure f => some (ofFailure f)
  | .fetch error => ofFetch? error
  | .document (.io error) => foreign? error.causes
  | .document (.document _) => none
  | .io error => foreign? error.causes
  | .transfer _ | .url _ => none
  | .foreign _ causes => foreign? causes

/-- More than the rank of what an error of a fetch is due to. -/
def rankOfFetch : FetchError → Nat
  | .io _ error => error.causes.length + 2
  | _ => 1

/-- A bound for the number of causes behind an error. -/
def rank : Link → Nat
  | .batch (.key f) | .failure f => rankOfFetch f.error + 1
  | .batch (.output error) => error.causes.length + 2
  | .fetch error => rankOfFetch error
  | .document (.io error) | .io error => error.causes.length + 1
  | .document (.document _) | .transfer _ | .url _ => 0
  | .foreign _ causes => causes.length

theorem rank_of_foreign? {causes : List String} {cause : Link}
    (named : foreign? causes = some cause) : cause.rank < causes.length := by
  cases causes with
  | nil => cases named
  | cons text causes =>
    cases named
    exact Nat.lt_succ_self causes.length

theorem rank_of_ofFetch? {error : FetchError} {cause : Link} (due : ofFetch? error = some cause) :
    cause.rank < rankOfFetch error := by
  cases error with
  | status => cases due
  | io path error =>
    cases due
    exact Nat.lt_succ_self _
  | network | json | url =>
    cases due
    exact Nat.one_pos

/-- An error is not due to itself, not even through others. -/
theorem rank_of_cause? {link cause : Link} (due : link.cause? = some cause) :
    cause.rank < link.rank := by
  cases link with
  | batch error =>
    cases error with
    | key | output =>
      cases due
      exact Nat.lt_succ_self _
  | failure =>
    cases due
    exact Nat.lt_succ_self _
  | fetch error => exact rank_of_ofFetch? due
  | document error =>
    cases error with
    | io error => exact Nat.lt_succ_of_lt (rank_of_foreign? due)
    | document => cases due
  | io error => exact Nat.lt_succ_of_lt (rank_of_foreign? due)
  | transfer | url => cases due
  | foreign text causes => exact rank_of_foreign? due

/-! ## Chains -/

/-- An error, what it is due to, what that is due to, and so on. -/
def chain (link : Link) : List Link :=
  match _ : link.cause? with
  | none => [link]
  | some cause => link :: cause.chain
termination_by link.rank
decreasing_by exact rank_of_cause? ‹_›

theorem chain_eq (link : Link) : link.chain = link :: link.cause?.elim [] chain := by
  rw [chain]
  split
  next due => rw [due, Option.elim_none]
  next cause due => rw [due, Option.elim_some]

end Link

/-- The messages of an error and of what it is due to. -/
def FetchError.chain (error : FetchError) : List String :=
  (Link.fetch error).chain.map Link.message

/-- The messages of a failure and of what it is due to. -/
def KeyFailure.chain (failure : KeyFailure) : List String :=
  (Link.failure failure).chain.map Link.message

/-- The messages of an error that ended a run and of what it is due to. -/
def BatchError.chain (error : BatchError) : List String :=
  (Link.batch error).chain.map Link.message

/-- A chain as one text. -/
def chainText (chain : List String) : String := ": ".intercalate chain

end VectorFetch

import VectorFetch.Batch
import VectorFetch.Proofs.Site

/-!
# The loop over the keys

* `Loop`: an invariant of the fetches, and what it comes to wherever they end.
* `Loop.fetchAll`, `Loop.runOver`: the fetches of all keys, and a run around them.
* `Lockstep`, `Lockstep.run`: a relation that two runs side by side keep, step by step.
-/

namespace VectorFetch.Batch

open Site

variable {σ : Type}

/-- `Inv written k site` is kept by the fetch of each key `k` and by its line, and it leads to `Ends`
behind the last key, at a fetch that fails, and at a line that is refused. -/
structure Loop (net : Network σ) (batch : Batch) (Inv : List Path → Nat → Site σ → Prop)
    (Ends : Except BatchError (List Path) × Site σ → Prop) : Prop where
  complete : ∀ {written here}, Inv written Key.count here →
    Ends (.ok written, here.log (.batchComplete written.length))
  failed : ∀ {written k here e after}, Inv written k here → k < Key.count →
    batch.fetchOne net (.ofNat k) here = (.error e, after) →
    Ends (.error (.key ⟨.ofNat k, e⟩), after.log (.fetchFailed (.ofNat k) e))
  refused : ∀ {written k here path after e announced}, Inv written k here → k < Key.count →
    batch.fetchOne net (.ofNat k) here = (.ok path, after) →
    after.printAll (gotPieces (.ofNat k)) = (.error e, announced) →
    Ends (.error (.output e), announced)
  announced : ∀ {written k here path after announced}, Inv written k here → k < Key.count →
    batch.fetchOne net (.ofNat k) here = (.ok path, after) →
    after.printAll (gotPieces (.ofNat k)) = (.ok (), announced) →
    Inv (written ++ [path]) (k + 1) (announced.log (.artifactWritten (.ofNat k) path))

namespace Loop

variable {net : Network σ} {batch : Batch} {Inv : List Path → Nat → Site σ → Prop}
  {Ends : Except BatchError (List Path) × Site σ → Prop}

/-- The keys from `k` on, and the end of the run if none of them stops it. -/
theorem fetchAll (loop : Loop net batch Inv Ends) (left k : Nat) (total : k + left = Key.count)
    {written : List Path} {here : Site σ} (holds : Inv written k here) :
    Ends (match batch.fetchAll net written ((List.range' k left).map Key.ofNat) here with
      | (.error e, site) => (.error e, site)
      | (.ok written, site) => (.ok written, site.log (.batchComplete written.length))) := by
  -- By induction on how many keys are left; the invariant is that of the keys before.
  induction left generalizing k written here with
  | zero =>
    obtain rfl : k = Key.count := total
    exact loop.complete holds
  | succ left ih =>
    have within : k < Key.count := by omega
    rw [List.range'_succ, List.map_cons, Batch.fetchAll]
    rcases fetched : batch.fetchOne net (.ofNat k) here with ⟨e | path, after⟩
    · exact loop.failed holds within fetched
    · dsimp only
      rcases printed : after.printAll (gotPieces (.ofNat k)) with ⟨e | _, announced⟩
      · exact loop.refused holds within fetched printed
      · exact ih (k + 1) (by omega) (loop.announced holds within fetched printed)

/-- A run over all keys, with any announcement before them. -/
theorem runOver (loop : Loop net batch Inv Ends) {announcement : List Bytes} {site : Site σ}
    (unannounced : ∀ {e after}, site.printAll announcement = (.error e, after) →
      Ends (.error (.output e), after))
    (begun : ∀ {after}, site.printAll announcement = (.ok (), after) →
      Inv [] 0 (after.log (.startingBatch batch.source.base.text batch.outDir Key.count))) :
    Ends (batch.runOver net announcement ((List.range' 0 Key.count).map Key.ofNat) site) := by
  unfold Batch.runOver
  rcases printed : site.printAll announcement with ⟨e | _, after⟩
  · exact unannounced printed
  · exact loop.fetchAll Key.count 0 (Nat.zero_add _) (begun printed)

end Loop

/-! ## Two runs side by side -/

section

variable {net : Network σ} {batch : Batch} {R : Site σ → Site σ → Prop} {a b : Site σ}

/-- What a run needs of a relation. -/
structure Lockstep (net : Network σ) (batch : Batch) (R : Site σ → Site σ → Prop) : Prop where
  fetched : ∀ {a b} key, R a b → InStep R (batch.fetchOne net key a) (batch.fetchOne net key b)
  printed : ∀ {a b} pieces, R a b → InStep R (a.printAll pieces) (b.printAll pieces)
  logged : ∀ {a b} event, R a b → R (a.log event) (b.log event)

theorem Lockstep.fetchAll (lockstep : Lockstep net batch R) (written : List Path)
    (keys : List Key) (related : R a b) :
    InStep R (batch.fetchAll net written keys a) (batch.fetchAll net written keys b) := by
  -- By induction on the keys: both sides get the same answers, so they go the same way.
  induction keys generalizing a b written with
  | nil => exact ⟨rfl, related⟩
  | cons key keys ih =>
    obtain ⟨answer, a, b, fetchedA, fetchedB, related⟩ := (lockstep.fetched key related).split
    unfold Batch.fetchAll
    rw [fetchedA, fetchedB]
    cases answer with
    | error e => exact ⟨rfl, lockstep.logged _ related⟩
    | ok path =>
      obtain ⟨answer, a, b, printedA, printedB, related⟩ :=
        (lockstep.printed (gotPieces key) related).split
      dsimp only
      rw [printedA, printedB]
      cases answer with
      | error e => exact ⟨rfl, related⟩
      | ok => exact ih _ (lockstep.logged _ related)

theorem Lockstep.runOver (lockstep : Lockstep net batch R) (announcement : List Bytes)
    (keys : List Key) (related : R a b) :
    InStep R (batch.runOver net announcement keys a) (batch.runOver net announcement keys b) := by
  obtain ⟨answer, a, b, printedA, printedB, related⟩ :=
    (lockstep.printed announcement related).split
  unfold Batch.runOver
  rw [printedA, printedB]
  cases answer with
  | error e => exact ⟨rfl, related⟩
  | ok =>
    have begun := lockstep.logged (.startingBatch batch.source.base.text batch.outDir Key.count)
      related
    obtain ⟨answer, a, b, fetchedA, fetchedB, related⟩ := (lockstep.fetchAll [] keys begun).split
    dsimp only
    rw [fetchedA, fetchedB]
    cases answer with
    | error e => exact ⟨rfl, related⟩
    | ok written => exact ⟨rfl, lockstep.logged _ related⟩

theorem Lockstep.run (lockstep : Lockstep net batch R) (related : R a b) :
    InStep R (batch.run net a) (batch.run net b) := by
  unfold Batch.run
  exact lockstep.runOver keyListPieces Key.all related

end

theorem run_eq (net : Network σ) (batch : Batch) (site : Site σ) : batch.run net site =
    batch.runOver net keyListPieces ((List.range' 0 Key.count).map Key.ofNat) site := by
  rw [← List.range_eq_range']
  rfl

end VectorFetch.Batch

import VectorFetch.Artifact
import VectorFetch.Site
import VectorFetch.Proofs.Artifact
import VectorFetch.Proofs.Files

/-!
# Sites before and after

* `Site.requests`: what was asked of servers.
* `Alike`: sites that differ at most in progress and in what is remembered of it.
* `InStep`: two calls with the same answer, that leave sites in a relation. A series of calls is in
  step if each of them is.
* `Same`: answers that alike sites give. Nothing but `Site.print` looks at progress.
* `Worked`: what a site keeps while the file of one name is fetched.
* `Artifact.write_of_stores`: what writing an artifact keeps.
* `printAll_eq`: pieces of progress are taken like the bytes that they make up.
-/

namespace VectorFetch

/-- The request of an effect, if it is one. -/
def Effect.request? : Effect → Option Http.Request
  | .request sent => some sent
  | _ => none

namespace Site

variable {σ : Type} {ε α : Type}

/-- The requests that were sent, in order. -/
def requests (site : Site σ) : List Http.Request := site.effects.filterMap Effect.request?

@[simp] theorem requests_record (site : Site σ) (effect : Effect) :
    (site.record effect).requests = site.requests ++ effect.request?.toList := by
  cases effect <;> simp [requests, record, Effect.request?]

/-! ## Alike sites -/

/-- The same but for progress, and for what is remembered of it. -/
structure Alike (a b : Site σ) : Prop where
  files : a.files = b.files
  cwd : a.cwd = b.cwd
  server : a.server = b.server
  requests : a.requests = b.requests

namespace Alike

variable {a b c : Site σ}

theorem refl (site : Site σ) : Alike site site := ⟨rfl, rfl, rfl, rfl⟩

theorem symm (alike : Alike a b) : Alike b a :=
  ⟨alike.files.symm, alike.cwd.symm, alike.server.symm, alike.requests.symm⟩

theorem trans (first : Alike a b) (second : Alike b c) : Alike a c :=
  ⟨first.files.trans second.files, first.cwd.trans second.cwd, first.server.trans second.server,
    first.requests.trans second.requests⟩

theorem answer (alike : Alike a b) (server : σ) :
    Alike { a with server } { b with server } :=
  ⟨alike.files, alike.cwd, rfl, alike.requests⟩

theorem store (alike : Alike a b) (files : Files) : Alike { a with files } { b with files } :=
  ⟨rfl, alike.cwd, alike.server, alike.requests⟩

theorem log (alike : Alike a b) (event : Event) : Alike (a.log event) b :=
  ⟨alike.files, alike.cwd, alike.server, alike.requests⟩

theorem record (alike : Alike a b) (effect : Effect) :
    Alike (a.record effect) (b.record effect) where
  files := alike.files
  cwd := alike.cwd
  server := alike.server
  requests := by simp [alike.requests]

end Alike

/-- The same answer, from sites that stand in a relation. -/
structure InStep (R : Site σ → Site σ → Prop) (x y : α × Site σ) : Prop where
  answer : x.1 = y.1
  sites : R x.2 y.2

theorem InStep.split {x y : α × Site σ} (inStep : InStep R x y) :
    ∃ answer a b, x = (answer, a) ∧ y = (answer, b) ∧ R a b :=
  ⟨x.1, x.2, y.2, rfl, by rw [inStep.answer], inStep.sites⟩

/-- The same answer, from sites that are still alike. -/
inductive Same : Except ε α × Site σ → Except ε α × Site σ → Prop where
  | error {e : ε} {a b : Site σ} (alike : Alike a b) : Same (.error e, a) (.error e, b)
  | ok {x : α} {a b : Site σ} (alike : Alike a b) : Same (.ok x, a) (.ok x, b)

theorem Same.of_alike {a b : Site σ} (answer : Except ε α) (alike : Alike a b) :
    Same (answer, a) (answer, b) := by
  cases answer with
  | error e => exact .error alike
  | ok x => exact .ok alike

theorem Same.answer {x y : Except ε α × Site σ} (same : Same x y) : x.1 = y.1 := by
  cases same <;> rfl

theorem Same.alike {x y : Except ε α × Site σ} (same : Same x y) : Alike x.2 y.2 := by
  cases same <;> assumption

theorem InStep.same {x y : Except ε α × Site σ} (inStep : InStep Alike x y) : Same x y := by
  obtain ⟨answer, a, b, rfl, rfl, alike⟩ := inStep.split
  exact .of_alike answer alike

theorem Same.inStep {x y : Except ε α × Site σ} (same : Same x y) : InStep Alike x y :=
  ⟨same.answer, same.alike⟩

variable {R : Site σ → Site σ → Prop} {a b : Site σ}

theorem create_same (alike : Alike a b) (path : Path) : Same (a.create path) (b.create path) := by
  have made : a.files.create a.cwd path = b.files.create b.cwd path := by
    rw [alike.files, alike.cwd]
  unfold create
  rw [made]
  split
  next => exact .error alike
  next files _ => exact .ok ((alike.store files).record _)

theorem store_same (alike : Alike a b) (place : Place) (bytes : Bytes) :
    Same (a.store place bytes) (b.store place bytes) := by
  simp only [store, alike.files]
  exact .of_alike _ ((alike.store _).record _)

theorem storeAll_inStep {place : Place}
    (stores : ∀ {a b} bytes, R a b → InStep R (a.store place bytes) (b.store place bytes))
    (batches : List Bytes) (related : R a b) :
    InStep R (a.storeAll place batches) (b.storeAll place batches) := by
  induction batches generalizing a b with
  | nil => exact ⟨rfl, related⟩
  | cons batch batches ih =>
    obtain ⟨answer, a, b, storedA, storedB, related⟩ := (stores batch related).split
    unfold storeAll
    rw [storedA, storedB]
    cases answer with
    | error e => exact ⟨rfl, related⟩
    | ok => exact ih related

theorem printAll_inStep
    (prints : ∀ {a b} bytes, R a b → InStep R (a.print bytes) (b.print bytes))
    (pieces : List Bytes) (related : R a b) :
    InStep R (a.printAll pieces) (b.printAll pieces) := by
  induction pieces generalizing a b with
  | nil => exact ⟨rfl, related⟩
  | cons piece pieces ih =>
    obtain ⟨answer, a, b, printedA, printedB, related⟩ := (prints piece related).split
    unfold printAll
    rw [printedA, printedB]
    cases answer with
    | error e => exact ⟨rfl, related⟩
    | ok => exact ih related

end Site

open Site

variable {σ : Type} {R : Site σ → Site σ → Prop} {a b : Site σ}

theorem Artifact.write_inStep {path : Path} (made : InStep R (a.create path) (b.create path))
    (stores : ∀ place, (a.create path).1 = .ok place → ∀ {a b} bytes, R a b →
      InStep R (a.store place bytes) (b.store place bytes)) (value : Json.Value) :
    InStep R (Artifact.write path value a) (Artifact.write path value b) := by
  obtain ⟨answer, a', b', madeA, madeB, related⟩ := made.split
  unfold Artifact.write
  rw [madeA] at stores
  rw [madeA, madeB]
  cases answer with
  | error e => exact ⟨rfl, related⟩
  | ok place =>
    have stored := storeAll_inStep (stores place rfl) (Buffer.batches (pieces value)) related
    obtain ⟨answer, a, b, storedA, storedB, related⟩ := stored.split
    dsimp only
    rw [storedA, storedB]
    cases answer with
    | error e => exact ⟨rfl, related⟩
    | ok => exact ⟨rfl, related⟩

theorem Artifact.write_same (alike : Alike a b) (path : Path) (value : Json.Value) :
    Same (Artifact.write path value a) (Artifact.write path value b) :=
  (Artifact.write_inStep (create_same alike path).inStep
    (fun place _ _ _ bytes alike => (store_same alike place bytes).inStep) value).same

/-! ## One file -/

/-- What a site keeps while the file of one name is fetched. -/
structure Site.Worked (name : String) (before after : Site σ) : Prop where
  files : before.files.Touches name after.files
  cwd : after.cwd = before.cwd
  progress : after.progress = before.progress
  requests : before.requests <+: after.requests

namespace Site

variable {name : String} {c : Site σ}

theorem Worked.refl (name : String) (site : Site σ) : Worked name site site :=
  ⟨.refl name site.files, rfl, rfl, List.prefix_refl _⟩

theorem Worked.trans (first : Worked name a b) (second : Worked name b c) : Worked name a c where
  files := first.files.trans second.files
  cwd := second.cwd.trans first.cwd
  progress := second.progress.trans first.progress
  requests := first.requests.trans second.requests

theorem Worked.store (site : Site σ) {files : Files} (touches : site.files.Touches name files)
    (effect : Effect) : Worked name site ({ site with files }.record effect) where
  files := touches
  cwd := rfl
  progress := rfl
  requests := by
    rw [requests_record]
    exact List.prefix_append _ _

end Site

theorem Site.storeAll_worked {site : Site σ} {dir : Place} {held : Bytes} {name : String}
    (holds : site.files.Holds (dir ++ [name]) held) (batches : List Bytes) :
    Worked name site (site.storeAll (dir ++ [name]) batches).2 ∧
      ((site.storeAll (dir ++ [name]) batches).1 = .ok () →
        (site.storeAll (dir ++ [name]) batches).2.files.Holds (dir ++ [name])
          (held ++ batches.flatten)) := by
  -- By induction on the batches, for whatever the file holds by then.
  induction batches generalizing site held with
  | nil => exact ⟨.refl name site, fun _ => by simpa [storeAll] using holds⟩
  | cons batch batches ih =>
    obtain ⟨rewritten, stored⟩ := Files.store_of_holds holds batch
    have worked := Worked.store site (.of_rewrittenAt rewritten) (.store (dir ++ [name]) batch)
    cases result : (site.files.store (dir ++ [name]) batch).1 with
    | error e =>
      have ended : site.storeAll (dir ++ [name]) (batch :: batches) =
          (.error e, (site.store (dir ++ [name]) batch).2) := by
        simp only [storeAll, store, result]
      rw [ended]
      exact ⟨worked, nofun⟩
    | ok =>
      have next : site.storeAll (dir ++ [name]) (batch :: batches) =
          (site.store (dir ++ [name]) batch).2.storeAll (dir ++ [name]) batches := by
        simp only [storeAll, store, result]
      have holdsMore : (site.store (dir ++ [name]) batch).2.files.Holds (dir ++ [name])
          (held ++ batch) := stored result
      obtain ⟨rest, holdsAll⟩ := ih holdsMore
      rw [next, List.flatten_cons, ← List.append_assoc]
      exact ⟨worked.trans rest, holdsAll⟩

/-- What writing an artifact does: it works on files of its name alone, it fails only in the
file system, and otherwise the document is there. -/
theorem Artifact.write_worked {path base : Path} {name : String} (named : Path.IsName name)
    (behind : path = base.join name) (value : Json.Value) (site : Site σ) :
    let ended := Artifact.write path value site
    Worked name site ended.2 ∧ (∀ e, ended.1 = .error e → ∃ io, e = .io path io) ∧
      (ended.1 = .ok () → ∃ dir,
        ended.2.files.locate site.cwd path = .ok ⟨dir ++ [name], false⟩ ∧
        ended.2.files.Holds (dir ++ [name]) (Utf8.encode value.pretty)) := by
  intro ended
  have unfolded : ended = Artifact.write path value site := rfl
  unfold Artifact.write Site.create at unfolded
  cases created : site.files.create site.cwd path with
  | error io =>
    rw [created] at unfolded
    rw [unfolded]
    exact ⟨.refl name site, fun e failed => ⟨io, (Except.error.inj failed).symm⟩, nofun⟩
  | ok made =>
    obtain ⟨place, files⟩ := made
    obtain ⟨located, rewritten, holds⟩ := Files.create_eq_ok created
    -- The place is that of a file with this name, whichever directory it is in.
    obtain ⟨dir, rfl⟩ := Files.locate_join named (behind ▸ located)
    have touches := Files.Touches.of_rewrittenAt rewritten
    have opened := Worked.store site touches (.create path)
    have empty : ({ site with files }.record (.create path)).files.Holds (dir ++ [name]) [] := holds
    obtain ⟨worked, holdsAll⟩ := Site.storeAll_worked empty (Buffer.batches (Artifact.pieces value))
    rw [created] at unfolded
    dsimp only at unfolded
    split at unfolded
    next io after stored =>
      rw [stored] at worked
      rw [unfolded]
      exact ⟨opened.trans worked, fun e failed => ⟨io, (Except.error.inj failed).symm⟩, nofun⟩
    next after stored =>
      rw [stored] at worked holdsAll
      rw [unfolded]
      refine ⟨opened.trans worked, nofun, fun _ => ⟨dir, ?_, ?_⟩⟩
      · exact (touches.trans worked.files).locate_iff.2 located
      · have all := holdsAll rfl
        rwa [List.nil_append, Buffer.flatten_batches, Artifact.flatten_pieces] at all

/-- What storing one batch keeps, storing all of them keeps. -/
theorem Site.storeAll_of_stores {P : Site σ → Prop} {place : Place}
    (stores : ∀ site bytes, P site → P (site.store place bytes).2) {site : Site σ} (holds : P site)
    (batches : List Bytes) : P (site.storeAll place batches).2 := by
  induction batches generalizing site with
  | nil => exact holds
  | cons batch batches ih =>
    have stored := stores site batch holds
    unfold storeAll
    generalize site.store place batch = result at stored ⊢
    obtain ⟨_ | _, after⟩ := result
    · exact stored
    · exact ih stored

/-- What the opening of a file and the storing of bytes keep, writing an artifact keeps. -/
theorem Artifact.write_of_stores {P : Site σ → Prop} {path : Path} {site : Site σ}
    (creates : P (site.create path).2)
    (stores : ∀ place site bytes, P site → P (site.store place bytes).2) (value : Json.Value) :
    P (Artifact.write path value site).2 := by
  unfold Artifact.write
  generalize site.create path = result at creates ⊢
  obtain ⟨_ | place, opened⟩ := result
  · exact creates
  · have stored := Site.storeAll_of_stores (stores place) creates
      (Buffer.batches (Artifact.pieces value))
    dsimp only at stored ⊢
    generalize opened.storeAll place (Buffer.batches (Artifact.pieces value)) = result at stored ⊢
    obtain ⟨_ | _, after⟩ := result
    · exact stored
    · exact stored

theorem Artifact.write_requests (path : Path) (value : Json.Value) (site : Site σ) :
    (Artifact.write path value site).2.requests = site.requests := by
  refine Artifact.write_of_stores (P := fun after => after.requests = site.requests) ?_ ?_ value
  · unfold Site.create
    split
    next => rfl
    next => simp [Effect.request?, requests, record]
  · intro place before bytes kept
    rw [← kept]
    simp [store, Effect.request?, requests, record]

/-! ## Progress -/

namespace Site

theorem print_alike (site : Site σ) (bytes : Bytes) : Alike (site.print bytes).2 site where
  files := rfl
  cwd := rfl
  server := rfl
  requests := by simp [print, requests, record, Effect.request?]

theorem printAll_alike (site : Site σ) (pieces : List Bytes) :
    Alike (site.printAll pieces).2 site := by
  induction pieces generalizing site with
  | nil => exact .refl site
  | cons piece pieces ih =>
    have printed := print_alike site piece
    unfold printAll
    generalize site.print piece = result at printed ⊢
    obtain ⟨_ | _, after⟩ := result
    · exact printed
    · exact (ih after).trans printed

/-- Pieces of progress are taken like the bytes that they make up. -/
theorem printAll_eq {site : Site σ} (calls : site.progress.perCall ≠ some 0)
    (pieces : List Bytes) :
    (site.printAll pieces).1 = (site.progress.takeAll pieces.flatten).1 ∧
      (site.printAll pieces).2.progress = (site.progress.takeAll pieces.flatten).2 ∧
      Alike (site.printAll pieces).2 site := by
  rw [← and_assoc]
  refine ⟨?_, printAll_alike site pieces⟩
  rw [← Sink.takePieces_eq calls]
  induction pieces generalizing site with
  | nil => exact ⟨rfl, rfl⟩
  | cons piece pieces ih =>
    have kept := Sink.perCall_takeAll calls piece
    unfold printAll Sink.takePieces
    rcases taken : site.progress.takeAll piece with ⟨answer, progress⟩
    have result : (site.print piece).1 = answer := by simp only [print, taken]
    have sink : (site.print piece).2.progress = progress := by simp only [print, taken, record]
    rw [taken] at kept
    rcases made : site.print piece with ⟨answer', after⟩
    rw [made] at result sink
    subst result sink
    cases answer' with
    | error e => exact ⟨rfl, rfl⟩
    | ok =>
      have callsOn : after.progress.perCall ≠ some 0 := kept ▸ calls
      exact ih callsOn

end Site

end VectorFetch

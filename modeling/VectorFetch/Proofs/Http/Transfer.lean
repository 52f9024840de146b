import VectorFetch.Http.Get
import VectorFetch.Proofs.Site

/-!
# Transfers

* `turn`, `follow_eq`: what comes behind one reply, an answer or the next request.
* `follow_of_visits`, `get_of_visits`: a transfer keeps what every request keeps.
* `get_same`: alike sites give the same answers.
* `get_requests`: the first request is for the URL itself.
-/

namespace VectorFetch.Http

open Site

variable {σ : Type} {net : Network σ} {site : Site σ} {followRedirects : Bool} {hops : Nat}
  {address : Address}

/-! ## One reply at a time -/

/-- The site behind a request for an address. -/
def visit (net : Network σ) (site : Site σ) (address : Address) : Site σ :=
  { site with server := (net.respond site.server ⟨address⟩).2 }.record (.request ⟨address⟩)

theorem requests_visit (net : Network σ) (site : Site σ) (address : Address) :
    (visit net site address).requests = site.requests ++ [⟨address⟩] := by
  rw [visit, requests_record]
  rfl

/-- What comes behind a reply: an answer, or an address to go on with and how many redirects
are left. -/
def turn (followRedirects : Bool) (hops : Nat) (address : Address) (reply : Reply) :
    Except TransferFault Response ⊕ Nat × Address :=
  match if followRedirects then reply.redirect? else none, hops with
  | none, _ => .inl reply.receive
  | some _, 0 => .inl (.error .tooManyRedirects)
  | some place, hops + 1 =>
    match address.redirected place with
    | .error e => .inl (.error e)
    | .ok next => .inr (hops, next)

theorem turn_of_none {reply : Reply} (stays : reply.redirect? = none) :
    turn followRedirects hops address reply = .inl reply.receive := by
  simp [turn, stays]

theorem turn_zero {reply : Reply} {place : String} (redirects : reply.redirect? = some place) :
    turn true 0 address reply = .inl (.error .tooManyRedirects) := by
  simp [turn, redirects]

theorem turn_of_ok {reply : Reply} {place : String} {next : Address}
    (redirects : reply.redirect? = some place) (leads : address.redirected place = .ok next) :
    turn true (hops + 1) address reply = .inr (hops, next) := by
  simp [turn, redirects, leads]

theorem turn_eq_inr {reply : Reply} {left : Nat} {next : Address}
    (turned : turn followRedirects hops address reply = .inr (left, next)) :
    hops = left + 1 ∧ ∃ place, reply.redirect? = some place ∧ address.redirected place = .ok next := by
  cases redirects : reply.redirect? with
  | none =>
    rw [turn_of_none redirects] at turned
    cases turned
  | some place =>
    cases followRedirects with
    | false => cases turned
    | true =>
      cases hops with
      | zero =>
        rw [turn_zero redirects] at turned
        cases turned
      | succ hops =>
        -- A turn leads on only by a redirection that is followed and that leads to an address.
        cases leads : address.redirected place with
        | error e => simp [turn, redirects, leads] at turned
        | ok other =>
          rw [turn_of_ok redirects leads] at turned
          cases turned
          exact ⟨rfl, place, rfl, leads⟩

theorem follow_eq (net : Network σ) (followRedirects : Bool) (hops : Nat) (address : Address)
    (site : Site σ) : follow net followRedirects hops address site =
      match net.refusal? address with
      | some e => (.error e, site)
      | none =>
        match turn followRedirects hops address (net.respond site.server ⟨address⟩).1 with
        | .inl answer => (answer, visit net site address)
        | .inr (left, next) => follow net followRedirects left next (visit net site address) := by
  -- Both sides ask once and look at the reply: what differs is when the redirects are counted.
  rw [follow.eq_def, ask]
  cases net.refusal? address with
  | some e => rfl
  | none =>
    simp only [turn, visit]
    generalize (if followRedirects then _ else none) = redirect?
    cases redirect? with
    | none => rfl
    | some place =>
      cases hops with
      | zero => rfl
      | succ hops =>
        dsimp only
        cases address.redirected place <;> rfl

/-! ## What every request keeps -/

theorem follow_of_visits {P : Site σ → Prop}
    (visits : ∀ site address, P site → P (visit net site address)) (here : P site) :
    P (follow net followRedirects hops address site).2 := by
  -- By induction on the redirects that are left: each turn spends one of them.
  induction hops using Nat.strongRecOn generalizing address site with
  | ind hops ih =>
    rw [follow_eq]
    cases net.refusal? address with
    | some e => exact here
    | none =>
      dsimp only
      split
      next => exact visits site address here
      next left next turned =>
        obtain ⟨rfl, -⟩ := turn_eq_inr turned
        exact ih left (Nat.lt_succ_self left) (visits site address here)

/-- A fault is handed on with what the transport says about it. -/
theorem get_eq_transfer (net : Network σ) (options : Options) (url : Url) (site : Site σ) :
    let ended := transfer net options url site
    (get net options url site).1 =
        ended.1.mapError (fun fault => ⟨fault, net.detail ended.2.server url fault⟩) ∧
      (get net options url site).2.requests = ended.2.requests := by
  unfold get
  generalize transfer net options url site = ended
  obtain ⟨_ | response, after⟩ := ended
  · exact ⟨rfl, rfl⟩
  · exact ⟨rfl, rfl⟩

theorem get_eq_ok_iff {options : Options} {url : Url} {response : Response} :
    (get net options url site).1 = .ok response ↔
      (transfer net options url site).1 = .ok response := by
  rw [(get_eq_transfer net options url site).1]
  cases (transfer net options url site).1 with
  | error fault => exact iff_of_false (fun same => by cases same) (fun same => by cases same)
  | ok other => exact ⟨fun same => by cases same; rfl, fun same => by cases same; rfl⟩

theorem transfer_of_get_eq_error {options : Options} {url : Url} {e : TransferError}
    (failed : (get net options url site).1 = .error e) :
    (transfer net options url site).1 = .error e.fault := by
  rw [(get_eq_transfer net options url site).1] at failed
  cases ended : (transfer net options url site).1 with
  | error fault =>
    rw [ended] at failed
    cases failed
    rfl
  | ok response =>
    rw [ended] at failed
    cases failed

theorem get_of_visits {P : Site σ → Prop} {options : Options} {url : Url}
    (visits : ∀ site address, P site → P (visit net site address))
    (logs : ∀ site event, P site → P (site.log event)) (here : P site) :
    P (get net options url site).2 := by
  have transferred : P (transfer net options url site).2 := by
    unfold transfer
    split
    next => exact here
    next =>
      split
      next => exact here
      next =>
        split
        next => exact here
        next => exact follow_of_visits visits here
  unfold get
  split
  next sent => rwa [sent] at transferred
  next sent =>
    rw [sent] at transferred
    exact logs _ _ transferred

theorem visit_worked (name : String) (net : Network σ) (site : Site σ) (address : Address) :
    Worked name site (visit net site address) where
  files := .refl name site.files
  cwd := rfl
  progress := rfl
  requests := by
    rw [requests_visit]
    exact List.prefix_append _ _

theorem get_worked (name : String) (net : Network σ) (options : Options) (url : Url)
    (site : Site σ) : Worked name site (get net options url site).2 := by
  apply get_of_visits (P := Worked name site)
  · exact fun after address worked => worked.trans (visit_worked name net after address)
  · exact fun after event worked => worked.trans ⟨.refl name _, rfl, rfl, List.prefix_refl _⟩
  · exact .refl name site

theorem get_files (net : Network σ) (options : Options) (url : Url) (site : Site σ) :
    (get net options url site).2.files = site.files := by
  apply get_of_visits (P := fun after => after.files = site.files)
  · exact fun _ _ same => same
  · exact fun _ _ same => same
  · rfl

/-! ## The first request -/

/-- The first request that is sent, if one is, is for the address itself. -/
theorem follow_requests (net : Network σ) (followRedirects : Bool) (hops : Nat)
    (address : Address) (site : Site σ) :
    let ended := follow net followRedirects hops address site
    ended.2.requests = site.requests ∨ site.requests ++ [⟨address⟩] <+: ended.2.requests := by
  intro ended
  cases refused : net.refusal? address with
  | some e =>
    left
    simp only [ended, follow_eq, refused]
  | none =>
    right
    rw [← requests_visit net site address]
    simp only [ended, follow_eq net _ _ address, refused]
    split
    next => exact List.prefix_refl _
    next =>
      -- The first visit is made, and whatever is sent later comes behind its request.
      refine follow_of_visits (P := fun after => (visit net site address).requests <+: after.requests)
        (fun after next sent => ?_) (List.prefix_refl _)
      rw [requests_visit net after]
      exact sent.trans (List.prefix_append _ _)

theorem get_requests (net : Network σ) (options : Options) (url : Url) (site : Site σ) :
    let ended := get net options url site
    ended.2.requests = site.requests ∨ ∃ address, Address.ofText url.text = .ok address ∧
      site.requests ++ [⟨address⟩] <+: ended.2.requests := by
  dsimp only
  rw [(get_eq_transfer net options url site).2, transfer]
  split
  next => exact .inl rfl
  next =>
    split
    next => exact .inl rfl
    next address spelled =>
      split
      next => exact .inl rfl
      next =>
        exact (follow_requests net _ _ address site).imp_right fun first => ⟨address, spelled, first⟩

/-! ## Two transfers side by side -/

variable {R : Site σ → Site σ → Prop} {a b : Site σ}

/-- What a transfer needs of a relation. -/
structure Asked (net : Network σ) (R : Site σ → Site σ → Prop) : Prop where
  server : ∀ {a b}, R a b → a.server = b.server
  visited : ∀ {a b} address, R a b → R (visit net a address) (visit net b address)
  logged : ∀ {a b} event, R a b → R (a.log event) (b.log event)

theorem follow_inStep (asked : Asked net R) (followRedirects : Bool) (hops : Nat)
    (address : Address) (related : R a b) :
    InStep R (follow net followRedirects hops address a)
      (follow net followRedirects hops address b) := by
  -- The servers remember the same, so both get the same reply and take the same turn.
  induction hops using Nat.strongRecOn generalizing a b address with
  | ind hops ih =>
    have visited := asked.visited address related
    rw [follow_eq, follow_eq, asked.server related]
    cases net.refusal? address with
    | some e => exact ⟨rfl, related⟩
    | none =>
      dsimp only
      split
      next => exact ⟨rfl, visited⟩
      next left next turned =>
        obtain ⟨rfl, -⟩ := turn_eq_inr turned
        exact ih left (Nat.lt_succ_self left) next visited

/-- Only a URL of this machine looks at files. -/
theorem transfer_inStep (asked : Asked net R) {options : Options} {url : Url}
    (web : ∀ address, Address.ofText url.text = .ok address → address.scheme ≠ "file")
    (related : R a b) : InStep R (transfer net options url a) (transfer net options url b) := by
  unfold transfer
  split
  next => exact ⟨rfl, related⟩
  next =>
    cases spelled : Address.ofText url.text with
    | error e => exact ⟨rfl, related⟩
    | ok address =>
      dsimp only
      rw [if_neg (web address spelled), if_neg (web address spelled)]
      exact follow_inStep asked _ _ address related

theorem get_inStep (asked : Asked net R) {options : Options} {url : Url}
    (transferred : InStep R (transfer net options url a) (transfer net options url b)) :
    InStep R (get net options url a) (get net options url b) := by
  obtain ⟨answer, a, b, gotA, gotB, related⟩ := transferred.split
  unfold get
  rw [gotA, gotB]
  cases answer with
  | error fault =>
    refine ⟨?_, related⟩
    simp only [asked.server related]
  | ok response => exact ⟨rfl, asked.logged _ related⟩

/-! ## Alike sites -/

theorem visit_alike (net : Network σ) (alike : Alike a b) (address : Address) :
    Alike (visit net a address) (visit net b address) := by
  rw [visit, visit, alike.server]
  exact (alike.answer _).record _

theorem asked_alike (net : Network σ) : Asked net (@Alike σ) where
  server alike := alike.server
  visited address alike := visit_alike net alike address
  logged event alike := (alike.log event).trans ((Alike.refl _).log event).symm

theorem readFile_of_alike (alike : Alike a b) (address : Address) :
    readFile a address = readFile b address := by
  simp only [readFile, alike.files, alike.cwd]

theorem transfer_same (net : Network σ) (alike : Alike a b) (options : Options) (url : Url) :
    Same (transfer net options url a) (transfer net options url b) := by
  simp only [transfer, readFile_of_alike alike]
  split
  next => exact .error alike
  next =>
    split
    next => exact .error alike
    next =>
      split
      next => exact .of_alike _ alike
      next => exact (follow_inStep (asked_alike net) _ _ _ alike).same

theorem get_same (net : Network σ) (alike : Alike a b) (options : Options) (url : Url) :
    Same (get net options url a) (get net options url b) :=
  (get_inStep (asked_alike net) (transfer_same net alike options url).inStep).same

end VectorFetch.Http

import VectorFetch.Proofs.Http.Address
import VectorFetch.Proofs.Http.Transfer

/-!
# Redirects

* `Address.IsWeb`: an address on the web. Nothing else is asked, and nothing else is redirected to.
* `Redirects`: replies that lead from address to address, whatever the server remembers.
* `follow_of_redirects`: behind redirects a transfer goes on where they have led.
* `Followed`, `get_redirects`: how a transfer ends that follows so many redirects, or none.
-/

namespace VectorFetch

namespace Http

open Site

variable {σ : Type} {net : Network σ}

/-! ## Addresses on the web -/

def Address.IsWeb (address : Address) : Prop := address.scheme = "http" ∨ address.scheme = "https"

namespace Address

theorem scheme_readBehindScheme {encoded hasScheme : Bool} {scheme : String} {s : List Char}
    {address : Address} (read : readBehindScheme encoded scheme hasScheme s = .ok address) :
    address.scheme = scheme := by
  unfold readBehindScheme at read
  dsimp only at read
  split at read
  next => cases read
  next =>
    split at read
    next => cases read
    next =>
      cases read
      rfl

theorem isWeb_of_ofPlace {place : List Char} {address : Address}
    (led : ofPlace place = .ok address) : address.IsWeb := by
  unfold ofPlace at led
  split at led
  next => cases led
  next =>
    split at led
    next => split at led <;> cases led
    next scheme rest _ _ =>
      split at led
      next web =>
        rw [IsWeb, scheme_readBehindScheme led]
        simpa using web
      next => cases led
    next => cases led

/-- A redirect leads nowhere but to the web. -/
theorem isWeb_of_redirected {base address : Address} {place : String}
    (led : base.redirected place = .ok address) : address.IsWeb := by
  unfold redirected at led
  split at led
  next => exact isWeb_of_ofPlace led
  next => exact isWeb_of_ofPlace led

end Address

/-! ## Chains of redirects -/

/-- `Redirects net start server visited last server'`: the replies to the requests for the
addresses `visited`, from `start` on, each lead to the next one, and in the end to `last`. The
server remembers `server` before, and `server'` behind them. -/
inductive Redirects (net : Network σ) : Address → σ → List Address → Address → σ → Prop
  | here {address : Address} {server : σ} : Redirects net address server [] address server
  | next {address next last : Address} {server server' : σ} {visited : List Address}
      {place : String} (redirects : (net.respond server ⟨address⟩).1.redirect? = some place)
      (leads : address.redirected place = .ok next)
      (rest : Redirects net next (net.respond server ⟨address⟩).2 visited last server') :
      Redirects net address server (address :: visited) last server'

namespace Redirects

variable {start last : Address} {server server' : σ} {visited : List Address}

theorem isWeb (chain : Redirects net start server visited last server') (web : start.IsWeb) :
    ∀ address ∈ visited ++ [last], address.IsWeb := by
  induction chain with
  | here => simpa using web
  | next _ leads _ ih => simpa [web] using ih (Address.isWeb_of_redirected leads)

/-- Within the redirects that are allowed a transfer comes to its end. -/
theorem exists_end (net : Network σ) (start : Address) (server : σ) (hops : Nat) :
    ∃ visited last server' answer, Redirects net start server visited last server' ∧
      visited.length ≤ hops ∧
      turn true (hops - visited.length) last (net.respond server' ⟨last⟩).1 = .inl answer := by
  induction hops using Nat.strongRecOn generalizing start server with
  | ind hops ih =>
    cases turned : turn true hops start (net.respond server ⟨start⟩).1 with
    | inl answer => exact ⟨[], start, server, answer, .here, Nat.zero_le hops, turned⟩
    | inr on =>
      -- The rest of the chain starts where the reply has led, with one redirect less.
      obtain ⟨left, next⟩ := on
      obtain ⟨rfl, place, redirects, leads⟩ := turn_eq_inr turned
      obtain ⟨visited, last, server', answer, rest, within, ends⟩ :=
        ih left (Nat.lt_succ_self left) next (net.respond server ⟨start⟩).2
      refine ⟨start :: visited, last, server', answer, .next redirects leads rest, ?_, ?_⟩
      · exact Nat.succ_le_succ within
      · simpa using ends

end Redirects

/-! ## Following -/

variable {site : Site σ} {address : Address} {hops : Nat} {followRedirects : Bool}

theorem follow_of_turn {answer : Except TransferFault Response}
    (reachable : net.refusal? address = none)
    (turned : turn followRedirects hops address (net.respond site.server ⟨address⟩).1 =
      .inl answer) :
    follow net followRedirects hops address site = (answer, visit net site address) := by
  simp only [follow_eq net followRedirects hops address site, reachable, turned]

/-- Behind redirects a transfer goes on where they have led. -/
theorem follow_of_redirects {start last : Address} {server server' : σ} {visited : List Address}
    (chain : Redirects net start server visited last server')
    (reachable : ∀ address ∈ visited, net.refusal? address = none) (within : visited.length ≤ hops)
    (begins : site.server = server) :
    ∃ here, here.server = server' ∧ here.requests = site.requests ++ visited.map Request.mk ∧
      follow net true hops start site = follow net true (hops - visited.length) last here := by
  induction chain generalizing site hops with
  | here => exact ⟨site, begins, by simp, by simp⟩
  | @next address next last server server' visited place redirects leads rest ih =>
    -- Such a chain is not empty, so there is a redirect left to spend on its first reply.
    subst begins
    obtain ⟨more, rfl⟩ := Nat.exists_eq_add_of_le' (Nat.le_trans (Nat.succ_pos _) within)
    have begins : (visit net site address).server = (net.respond site.server ⟨address⟩).2 := rfl
    obtain ⟨first, others⟩ := List.forall_mem_cons.1 reachable
    obtain ⟨here, remembers, sent, goesOn⟩ := ih others (Nat.le_of_succ_le_succ within) begins
    refine ⟨here, remembers, ?_, ?_⟩
    · rw [sent, requests_visit]
      simp
    · simp only [follow_eq net _ _ address, first, turn_of_ok redirects leads]
      rw [goesOn, List.length_cons, Nat.add_sub_add_right]

/-- The end of a chain of redirects is the end of the transfer. -/
theorem follow_of_end {start last : Address} {server : σ} {visited : List Address}
    {answer : Except TransferFault Response}
    (chain : Redirects net start site.server visited last server)
    (reachable : ∀ address ∈ visited ++ [last], net.refusal? address = none)
    (within : visited.length ≤ hops)
    (ends : turn true (hops - visited.length) last (net.respond server ⟨last⟩).1 = .inl answer) :
    (follow net true hops start site).1 = answer ∧
      (follow net true hops start site).2.requests =
        site.requests ++ (visited ++ [last]).map Request.mk := by
  obtain ⟨onTheWay, atEnd⟩ := List.forall_mem_append.1 reachable
  obtain ⟨here, rfl, sent, goesOn⟩ := follow_of_redirects chain onTheWay within rfl
  rw [goesOn, follow_of_turn (atEnd last (.head _)) ends, requests_visit, sent]
  exact ⟨rfl, by simp⟩

/-! ## Transfers -/

/-- How a transfer from `start` goes that follows so many redirects: what it answers, and the
addresses that were asked. -/
structure Followed (net : Network σ) (hops : Nat) (start : Address) (server : σ)
    (answer : Except TransferError Response) (asked : List Address) : Prop where
  /-- The first reply that redirects nowhere is the response, and it alone. -/
  answered : ∀ {visited last server' response},
    Redirects net start server visited last server' → visited.length ≤ hops →
    (net.respond server' ⟨last⟩).1.redirect? = none →
    (net.respond server' ⟨last⟩).1.receive = .ok response →
    answer = .ok response ∧ asked = visited ++ [last]
  /-- A reply that redirects where no redirect is left makes the transfer fail. -/
  exhausted : ∀ {visited last server' place},
    Redirects net start server visited last server' → visited.length = hops →
    (net.respond server' ⟨last⟩).1.redirect? = some place →
    (∃ e, answer = .error e ∧ e.code = 47) ∧ asked = visited ++ [last] ∧ asked.length = hops + 1
  bounded : asked.length ≤ hops + 1
  /-- Only the web is asked, and each address is where the reply before has led. -/
  led : (∀ address ∈ asked, address.IsWeb) ∧
    ∃ visited last server', Redirects net start server visited last server' ∧
      asked = visited ++ [last]

theorem follow_followed (reachable : ∀ address, net.refusal? address = none) (hops : Nat)
    {start : Address} (web : start.IsWeb) (site : Site σ) (detail : TransferFault → Option String) :
    ∃ asked, (follow net true hops start site).2.requests = site.requests ++ asked.map Request.mk ∧
      Followed net hops start site.server
        ((follow net true hops start site).1.mapError fun fault => ⟨fault, detail fault⟩) asked := by
  obtain ⟨visited, last, server, answer, chain, within, ends⟩ :=
    Redirects.exists_end net start site.server hops
  obtain ⟨-, requests⟩ := follow_of_end chain (fun address _ => reachable address) within ends
  -- Any other chain to an end is this one, for the same requests were sent.
  have same : ∀ {visited' last'}, (follow net true hops start site).2.requests =
      site.requests ++ (visited' ++ [last']).map Request.mk →
      visited ++ [last] = visited' ++ [last'] := by
    intro visited' last' sent
    have asked := List.append_cancel_left (requests.symm.trans sent)
    exact (List.map_inj_right fun _ _ => Request.mk.inj).1 asked
  refine ⟨visited ++ [last], requests, ?_, ?_, ?_, chain.isWeb web,
    visited, last, server, chain, rfl⟩
  · intro visited' last' server' response chain' within' stays received
    obtain ⟨answer, sent⟩ :=
      follow_of_end chain' (fun address _ => reachable address) within' (turn_of_none stays)
    rw [answer, received]
    exact ⟨rfl, same sent⟩
  · intro visited' last' server' place chain' all redirects
    have none : hops - visited'.length = 0 := by omega
    obtain ⟨answer, sent⟩ := follow_of_end chain' (fun address _ => reachable address)
      (Nat.le_of_eq all) (none ▸ turn_zero redirects)
    rw [answer]
    exact ⟨⟨_, rfl, rfl⟩, same sent, by simp [same sent, all]⟩
  · simpa using within

/-- A transfer of a URL of the web is a request for its address, and what follows from it. -/
theorem get_of_isWeb {options : Options} {url : Url} {start : Address} (usable : options.isUsable)
    (spelled : Address.ofText url.text = .ok start) (web : start.IsWeb) :
    let ended := follow net options.followRedirects options.hops start site
    (get net options url site).1 =
        ended.1.mapError (fun fault => ⟨fault, net.detail ended.2.server url fault⟩) ∧
      (get net options url site).2.requests = ended.2.requests := by
  have notFile : start.scheme ≠ "file" := by rcases web with h | h <;> rw [h] <;> decide
  have followed : transfer net options url site =
      follow net options.followRedirects options.hops start site := by
    rw [transfer, usable, spelled]
    simp only [Bool.not_true, Bool.false_eq_true, if_false, if_neg notFile]
  rw [← followed]
  exact get_eq_transfer net options url site

/-- A transfer that follows no redirects is one request and its reply. One that follows them
ends with the first reply that redirects nowhere, or with one redirect more than allowed,
whatever the server makes of the requests before. All that is asked of the URL is a host that
transfers can name. -/
theorem get_redirects (net : Network σ) {options : Options} {url : Url} (site : Site σ)
    (usable : ∀ timeout, options.connectTimeout = some timeout →
      timeout.seconds.toNat < Nat.pow 2 63)
    (sound : url.IsSound) (web : url.scheme = "http" ∨ url.scheme = "https")
    (named : ∀ a ∈ url.authority, Address.isHost a.host.text.toList)
    (reachable : ∀ address, net.refusal? address = none) :
    let ended := get net options url site
    ∃ start asked, Address.ofText url.text = .ok start ∧
      ended.2.requests = site.requests ++ asked.map Request.mk ∧
      (options.followRedirects = false → asked = [start] ∧
        ∀ response, (net.respond site.server ⟨start⟩).1.receive = .ok response →
          ended.1 = .ok response) ∧
      (options.followRedirects = true →
        Followed net (min options.maxRedirections.toNat 32767) start site.server ended.1 asked) := by
  intro ended
  obtain ⟨a, there⟩ := sound.exists_authority web
  obtain ⟨start, spelled, scheme, -⟩ := Address.ofText_text sound web there (named a there)
  have isWeb : start.IsWeb := by rwa [Address.IsWeb, scheme]
  obtain ⟨answer, requests⟩ : ended.1 = _ ∧ ended.2.requests = _ :=
    get_of_isWeb (Options.isUsable_iff.2 usable) spelled isWeb
  -- Without redirections the first response is the answer, be it a redirection itself.
  cases follows : options.followRedirects with
  | false =>
    rw [follows, follow_of_turn (reachable start) rfl] at answer requests
    refine ⟨start, [start], spelled, requests.trans (requests_visit net site start), ?_, nofun⟩
    refine fun _ => ⟨rfl, fun response received => ?_⟩
    rw [answer, received]
    rfl
  | true =>
    have hops : options.hops = min options.maxRedirections.toNat 32767 := by
      rw [Options.hops, if_pos follows, Options.redirectCap]
    rw [follows, hops] at answer requests
    obtain ⟨asked, sent, followed⟩ := follow_followed reachable _ isWeb site _
    exact ⟨start, asked, spelled, requests.trans sent, nofun, fun _ => answer ▸ followed⟩

/-- The server answers the third request, wherever it goes. The first redirect is relative, and
the second one names another host. -/
theorem get_redirects_of_third_reply :
    let net : Network Nat := ⟨fun _ => none, fun n _ =>
      (.message (if n < 2 then 302 else 200)
        (if n = 0 then [("Location", "../c?d")] else if n = 1 then [("location", "//b")] else [])
        (Utf8.encode "body"), n + 1), fun _ _ _ => none⟩
    let options : Options := ⟨some (.ofSeconds 5), true, 2⟩
    let url : Url :=
      ⟨"http", some ⟨"", "", .domain "a", none⟩, .segments ["x", "y", "z"], none, none⟩
    let start : Address := ⟨"http", none, "a", none, "/x/y/z", none, none⟩
    let second : Address := ⟨"http", none, "a", none, "/x/c", some "d", none⟩
    let third : Address := ⟨"http", none, "b", none, "/", none, none⟩
    let site : Site Nat := .start .empty [] 0 .unlimited
    let ended := get net options url site
    Address.ofText url.text = .ok start ∧
      ended.1 = .ok ⟨200, Utf8.encode "body"⟩ ∧
      ended.2.requests = [⟨start⟩, ⟨second⟩, ⟨third⟩] ∧
      Followed net 2 start 0 ended.1 [start, second, third] := by
  intro net options url start second third site ended
  have usable : ∀ timeout, options.connectTimeout = some timeout →
      timeout.seconds.toNat < Nat.pow 2 63 := by
    rintro _ ⟨⟩
    decide
  have sound : url.IsSound := by
    refine ⟨?_, fun _ => rfl⟩
    rintro _ ⟨⟩
    exact ⟨⟨nofun, nofun⟩, _, rfl⟩
  have named : ∀ a ∈ url.authority, Address.isHost a.host.text.toList := by
    rintro _ ⟨⟩
    decide +kernel
  have spelled : Address.ofText url.text = .ok start := by decide +kernel
  obtain ⟨start', asked, spelled', sent, -, followed⟩ :=
    get_redirects net site usable sound (.inl rfl) named fun _ => rfl
  obtain rfl : start = start' := Except.ok.inj (spelled.symm.trans spelled')
  have followed : Followed net 2 start 0 ended.1 asked := followed rfl
  have first : (net.respond 0 ⟨start⟩).1.redirect? = some "../c?d" := by decide +kernel
  have next : (net.respond 1 ⟨second⟩).1.redirect? = some "//b" := by decide +kernel
  -- Two redirections, of which the second one leads to another host.
  have chain : Redirects net start 0 [start, second] third 2 :=
    .next first (by decide +kernel) (.next next (by decide +kernel) .here)
  obtain ⟨answered, rfl⟩ := followed.answered chain (Nat.le_refl 2) (by decide +kernel) rfl
  exact ⟨spelled, answered, sent, followed⟩

end Http

end VectorFetch

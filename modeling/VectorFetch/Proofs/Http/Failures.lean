import VectorFetch.Proofs.Http.Transfer

/-!
# How transfers fail

* `TransferFault.IsFound`: the faults that this machine finds by itself, in an address, in a reply
  or in a file.
* `follow_error`, `get_error`: with settings that can be used, a transfer fails for one of these, or
  for the reason for which a server takes no connection.
-/

namespace VectorFetch.Http

/-- A fault that is found in an address, in a reply or in a file. -/
inductive TransferFault.IsFound : TransferFault → Prop where
  | unsupportedScheme : IsFound .unsupportedScheme
  | malformedUrl : IsFound .malformedUrl
  | strangeReply : IsFound .strangeReply
  | partialBody : IsFound .partialBody
  | unreadableFile : IsFound .unreadableFile
  | tooManyRedirects : IsFound .tooManyRedirects
  | noReply : IsFound .noReply
  | badFraming : IsFound .badFraming

variable {e : TransferFault}

/-- No fault has the number of a bad setting. -/
theorem TransferFault.IsFound.code_ne (found : e.IsFound) : e.code ≠ 43 := by
  cases found <;> decide

/-! ## Addresses -/

namespace Address

theorem isFound_of_readAuthority {scheme : Bool} {s : List Char}
    (failed : readAuthority scheme s = .error e) : e.IsFound := by
  unfold readAuthority at failed
  split at failed
  next user rest _ =>
    split at failed
    next host port _ =>
      -- Whatever is wrong with an authority, the address as a whole is called malformed.
      cases named : isHost host with
      | false =>
        simp only [named, Bool.not_false, if_true] at failed
        cases failed
        exact .malformedUrl
      | true =>
        simp only [named, Bool.not_true, Bool.false_eq_true, if_false] at failed
        split at failed
        next => cases failed
        next =>
          split at failed
          next => cases failed
          next =>
            cases failed
            exact .malformedUrl
        next =>
          split at failed
          next => cases failed
          next =>
            cases failed
            exact .malformedUrl

theorem isFound_of_readBehindScheme {encoded hasScheme : Bool} {scheme : String} {s : List Char}
    (failed : readBehindScheme encoded scheme hasScheme s = .error e) : e.IsFound := by
  simp only [readBehindScheme] at failed
  split at failed
  next =>
    cases failed
    exact .malformedUrl
  next =>
    split at failed
    next fault =>
      cases failed
      exact isFound_of_readAuthority fault
    next => cases failed

theorem isFound_of_readFile {s : List Char} (failed : readFile s = .error e) : e.IsFound := by
  simp only [readFile] at failed
  split at failed
  next =>
    cases failed
    exact .malformedUrl
  next =>
    split at failed
    next =>
      cases failed
      exact .malformedUrl
    next => cases failed

theorem isFound_of_ofText {url : String} (failed : ofText url = .error e) : e.IsFound := by
  unfold ofText at failed
  split at failed
  next => exact isFound_of_readFile failed
  next =>
    split at failed
    next fault =>
      cases failed
      exact isFound_of_readBehindScheme fault
    next =>
      split at failed
      next => cases failed
      next =>
        cases failed
        exact .unsupportedScheme
  next => exact isFound_of_readBehindScheme failed

theorem isFound_of_ofPlace {place : List Char} (failed : ofPlace place = .error e) : e.IsFound := by
  unfold ofPlace at failed
  split at failed
  next =>
    cases failed
    exact .malformedUrl
  next =>
    split at failed
    next =>
      split at failed
      next =>
        cases failed
        exact .unsupportedScheme
      next fault =>
        cases failed
        exact isFound_of_readFile fault
    next =>
      split at failed
      next => exact isFound_of_readBehindScheme failed
      next =>
        cases failed
        exact .unsupportedScheme
    next =>
      cases failed
      exact .malformedUrl

theorem isFound_of_redirected {base : Address} {place : String}
    (failed : base.redirected place = .error e) : e.IsFound := by
  unfold redirected at failed
  split at failed
  next => exact isFound_of_ofPlace failed
  next => exact isFound_of_ofPlace failed

end Address

/-! ## Replies and files -/

theorem isFound_of_length? {value : List Char} (failed : length? value = .error e) : e.IsFound := by
  unfold length? at failed
  split at failed
  next =>
    cases failed
    exact .strangeReply
  next => cases failed

theorem isFound_of_announced? {headers : List (String × String)}
    (failed : announced? headers = .error e) : e.IsFound := by
  unfold announced? at failed
  generalize values "content-length" headers = announced, none = before at failed
  -- The first header that is refused is the fault, whatever was announced before it.
  induction announced generalizing before with
  | nil => cases failed
  | cons value announced ih =>
    rw [List.foldlM_cons] at failed
    cases read : length? value with
    | error fault =>
      rw [read] at failed
      cases failed
      exact isFound_of_length? read
    | ok length =>
      rw [read] at failed
      exact ih _ failed

theorem isFound_of_body {headers : List (String × String)} {sent : Bytes}
    (failed : body headers sent = .error e) : e.IsFound := by
  unfold body at failed
  split at failed
  next fault =>
    cases failed
    exact isFound_of_announced? fault
  next =>
    split at failed
    next =>
      unfold Chunk.decode at failed
      grind [TransferFault.IsFound]
    next =>
      split at failed
      next =>
        split at failed
        next =>
          cases failed
          exact .partialBody
        next => cases failed
      next => cases failed

theorem isFound_of_receive {reply : Reply} (failed : reply.receive = .error e) : e.IsFound := by
  unfold Reply.receive at failed
  split at failed
  next =>
    cases failed
    exact .noReply
  next =>
    split at failed
    next => cases failed
    next =>
      split at failed
      next => cases failed
      next fault =>
        cases failed
        exact isFound_of_body fault

variable {σ : Type} {net : Network σ} {site : Site σ}

theorem isFound_of_readFile {address : Address} (failed : readFile site address = .error e) :
    e.IsFound := by
  simp only [readFile] at failed
  split at failed
  next =>
    cases failed
    exact .malformedUrl
  next =>
    have unreadable : e = .unreadableFile := by grind
    rw [unreadable]
    exact .unreadableFile

/-! ## Transfers -/

theorem isFound_of_turn {followRedirects : Bool} {hops : Nat} {address : Address} {reply : Reply}
    (turned : turn followRedirects hops address reply = .inl (.error e)) : e.IsFound := by
  unfold turn at turned
  split at turned
  next => exact isFound_of_receive (Sum.inl.inj turned)
  next =>
    cases turned
    exact .tooManyRedirects
  next =>
    split at turned
    next fault =>
      cases turned
      exact Address.isFound_of_redirected fault
    next => cases turned

theorem follow_error {followRedirects : Bool} {hops : Nat} {address : Address}
    (failed : (follow net followRedirects hops address site).1 = .error e) :
    e.IsFound ∨ ∃ address, net.refusal? address = some e := by
  induction hops using Nat.strongRecOn generalizing address site with
  | ind hops ih =>
    rw [follow_eq] at failed
    split at failed
    next refused =>
      cases failed
      exact .inr ⟨address, refused⟩
    next =>
      split at failed
      next answer turned =>
        have error : answer = .error e := failed
        rw [error] at turned
        exact .inl (isFound_of_turn turned)
      next left next turned =>
        obtain ⟨rfl, -⟩ := turn_eq_inr turned
        exact ih left (Nat.lt_succ_self left) failed

/-- With settings that can be used, a transfer fails for a fault, or because a server takes no
connection. -/
theorem get_error {options : Options} (usable : options.isUsable) {url : Url} {e : TransferError}
    (failed : (get net options url site).1 = .error e) :
    e.fault.IsFound ∨ ∃ address, net.refusal? address = some e.fault := by
  have failed := transfer_of_get_eq_error failed
  unfold transfer at failed
  simp only [usable, Bool.not_true, Bool.false_eq_true, if_false] at failed
  split at failed
  next fault =>
    cases failed
    exact .inl (Address.isFound_of_ofText fault)
  next =>
    split at failed
    next => exact .inl (isFound_of_readFile failed)
    next => exact follow_error failed

end VectorFetch.Http

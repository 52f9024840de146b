import Mathlib.Data.List.TakeWhile
import VectorFetch.Proofs.Http.Chunk
import VectorFetch.Proofs.Http.Redirect

/-!
# How bodies are sent

* `Frames`, `Breaks`: a body sent with its length, in chunks or up to the end of the connection, and
  one that breaks off before its end.
* `body_of_frames`, `body_of_breaks`: what is received of them.
* `Reaches`, `get_of_reaches`: a transfer that comes to a reply, at once or behind redirects.
* `get_of_frames`, `get_of_breaks`: what a transfer gives.
-/

namespace VectorFetch.Http

/-! ## Bodies as they are sent -/

/-- A header that does not say where the body ends. -/
def IsUnframed (header : String × String) : Prop :=
  header.1.toLower ≠ "content-length" ∧ header.1.toLower ≠ "transfer-encoding"

/-- A header that announces a length. -/
structure IsLengthHeader (n : Nat) (header : String × String) : Prop where
  name : header.1.toLower = "content-length"
  value : header.2 = n.repr

/-- A header that says that the body comes in chunks. -/
structure IsChunkedHeader (header : String × String) : Prop where
  name : header.1.toLower = "transfer-encoding"
  value : header.2.toLower = "chunked"

/-- Headers of a body in chunks. A length may be announced as well, and does not count. -/
structure AreChunked (headers : List (String × String)) : Prop where
  coded : ∃ header ∈ headers, IsChunkedHeader header
  others : ∀ header ∈ headers, IsChunkedHeader header ∨ IsUnframed header ∨
    ∃ n, IsLengthHeader n header

/-- The ways to send a body: headers, and the bytes behind them up to the end of the connection. -/
inductive Frames (body : Bytes) : List (String × String) → Bytes → Prop where
  | length {header : String × String} {before behind : List (String × String)}
      (announces : IsLengthHeader body.length header)
      (others : ∀ header ∈ before ++ behind, IsUnframed header) :
      Frames body (before ++ header :: behind) body
  /-- In any number of chunks. -/
  | chunked {headers : List (String × String)} {chunks : List Bytes} {sent : Bytes}
      (coded : AreChunked headers) (carries : Chunk.Carries chunks sent)
      (whole : chunks.flatten = body) : Frames body headers sent
  /-- Up to the end of the connection. -/
  | close {headers : List (String × String)} (others : ∀ header ∈ headers, IsUnframed header) :
      Frames body headers body

/-- The ways in which a body breaks off. A length that does not fit 63 bits is no length, and the
body ends with the connection. -/
inductive Breaks : List (String × String) → Bytes → Prop where
  | length {header : String × String} {before behind : List (String × String)} {announced : Nat}
      {sent : Bytes} (announces : IsLengthHeader announced header) (fits : announced < 2 ^ 63)
      (others : ∀ header ∈ before ++ behind, IsUnframed header) (short : sent.length < announced) :
      Breaks (before ++ header :: behind) sent
  | chunked {headers : List (String × String)} {chunks : List Bytes} {whole sent : Bytes}
      (coded : AreChunked headers) (carries : Chunk.Carries chunks whole) (front : sent <+: whole)
      (short : sent.length < whole.length) : Breaks headers sent

/-! ## What is received -/

variable {headers before behind : List (String × String)} {body sent : Bytes} {c : Char}

theorem trim_isBlank {s : List Char} (clean : ∀ c ∈ s, ¬isBlank c) : Text.trim isBlank s = s :=
  Text.trim_eq_self (fun c first => clean c (List.mem_of_mem_head? first))
    fun c last => clean c (List.mem_of_mem_getLast? last)

/-- What no blank is, a blank is not. -/
theorem not_isBlank_of {p : Char → Bool} (holds : p c)
    (never : [' ', '\t', '\n', '\x0b', '\x0c', '\r'].any p = false) : ¬isBlank c := by
  intro blank
  have listed : c ∈ [' ', '\t', '\n', '\x0b', '\x0c', '\r'] := by
    simpa [isBlank, or_assoc] using blank
  exact absurd (List.any_eq_true.2 ⟨c, listed, holds⟩) (by simp [never])

theorem values_append (name : String) (a b : List (String × String)) :
    values name (a ++ b) = values name a ++ values name b := by
  simp [values]

theorem values_cons_of_eq {name : String} {header : String × String}
    (named : header.1.toLower = name) (rest : List (String × String)) :
    values name (header :: rest) = Text.trim isBlank header.2.toList :: values name rest := by
  simp [values, named]

theorem values_cons_of_ne {name : String} {header : String × String}
    (other : header.1.toLower ≠ name) (rest : List (String × String)) :
    values name (header :: rest) = values name rest := by
  simp [values, other]

theorem values_eq_nil {name : String} (others : ∀ header ∈ headers, header.1.toLower ≠ name) :
    values name headers = [] := by
  simp only [values, List.filterMap_eq_nil_iff]
  exact fun header member => if_neg (others header member)

/-! ### Bodies in chunks -/

theorem isChunked_of_unframed (others : ∀ header ∈ headers, IsUnframed header) :
    isChunked headers = false := by
  rw [isChunked, values_eq_nil fun header member => (others header member).2]
  rfl

theorem isChunked_of_mem {header : String × String} (member : header ∈ headers)
    (coded : IsChunkedHeader header) : isChunked headers := by
  have clean : ∀ c ∈ header.2.toList, ¬isBlank c := by
    intro c member
    have letter : "chunked".toList.contains c.toLower := by
      have lowered : header.2.toLower = header.2.map Char.toLower := rfl
      rw [List.contains_iff_mem, ← coded.value, lowered, String.toList_map]
      exact List.mem_map_of_mem member
    exact not_isBlank_of (p := fun c => "chunked".toList.contains c.toLower) letter (by decide)
  rw [isChunked, List.any_eq_true]
  refine ⟨header.2.toList, ?_, by simpa using coded.value⟩
  rw [values, List.mem_filterMap]
  exact ⟨header, member, by simp only [if_pos coded.name, trim_isBlank clean]⟩

/-! ### Lengths -/

theorem IsLengthHeader.notCoded {n : Nat} {header : String × String}
    (announces : IsLengthHeader n header) : header.1.toLower ≠ "transfer-encoding" := by
  rw [announces.name]
  decide

theorem IsLengthHeader.trim_eq {n : Nat} {header : String × String}
    (announces : IsLengthHeader n header) :
    Text.trim isBlank header.2.toList = Nat.toDigits 10 n := by
  have digits : header.2.toList = Nat.toDigits 10 n := by
    simp [announces.value, Nat.repr_eq_ofList_toDigits]
  rw [digits]
  apply trim_isBlank
  intro c member
  have digit : '0' ≤ c && c ≤ '9' := isDigit_of_mem_toDigits member
  exact not_isBlank_of (p := fun c => '0' ≤ c && c ≤ '9') digit (by decide)

theorem length?_toDigits (n : Nat) :
    length? (Nat.toDigits 10 n) = .ok (if n < Nat.pow 2 63 then some n else none) := by
  have taken : (Nat.toDigits 10 n).takeWhile (fun c => '0' ≤ c && c ≤ '9') = Nat.toDigits 10 n :=
    List.takeWhile_eq_self_iff.2 fun c member => isDigit_of_mem_toDigits member
  obtain ⟨c, more, spelled⟩ := List.exists_cons_of_ne_nil (@Nat.toDigits_ne_nil n 10)
  have value := foldl_toDigits n
  rw [length?, taken]
  rw [spelled] at value ⊢
  simp only [value]

theorem announced?_eq_none (others : ∀ header ∈ headers, IsUnframed header) :
    announced? headers = .ok none := by
  rw [announced?, values_eq_nil fun header member => (others header member).1]
  rfl

theorem announced?_append {n : Nat} {header : String × String} (announces : IsLengthHeader n header)
    (others : ∀ header ∈ before ++ behind, IsUnframed header) :
    isChunked (before ++ header :: behind) = false ∧
      announced? (before ++ header :: behind) =
        .ok (if n < Nat.pow 2 63 then some n else none) := by
  obtain ⟨front, back⟩ := List.forall_mem_append.1 others
  constructor
  · rw [isChunked, values_append, values_eq_nil fun header member => (front header member).2,
      values_cons_of_ne announces.notCoded]
    exact isChunked_of_unframed back
  · have alone : values "content-length" (before ++ header :: behind) = [Nat.toDigits 10 n] := by
      rw [values_append, values_eq_nil fun header member => (front header member).1,
        values_cons_of_eq announces.name, values_eq_nil fun header member => (back header member).1,
        announces.trim_eq]
      rfl
    rw [announced?, alone, List.foldlM_cons, length?_toDigits]
    simp [Except.map]

/-- Headers that announce nothing but lengths are not refused. -/
theorem exists_announced? (each : ∀ header ∈ headers, header.1.toLower = "content-length" →
    ∃ n, IsLengthHeader n header) : ∃ length, announced? headers = .ok length := by
  unfold announced?
  generalize none = so
  induction headers generalizing so with
  | nil => exact ⟨so, rfl⟩
  | cons header headers ih =>
    obtain ⟨first, others⟩ := List.forall_mem_cons.1 each
    by_cases named : header.1.toLower = "content-length"
    · obtain ⟨n, announces⟩ := first named
      rw [values_cons_of_eq named, announces.trim_eq, List.foldlM_cons, length?_toDigits]
      exact ih others _
    · rw [values_cons_of_ne named]
      exact ih others so

/-! ### Whole bodies and parts of them -/

theorem AreChunked.body_eq (coded : AreChunked headers) (sent : Bytes) :
    Http.body headers sent = Chunk.decode sent := by
  obtain ⟨header, member, isChunkedHeader⟩ := coded.coded
  have lengths : ∀ header ∈ headers, header.1.toLower = "content-length" →
      ∃ n, IsLengthHeader n header := by
    intro header member named
    rcases coded.others header member with chunked | unframed | announces
    · exact absurd (named.symm.trans chunked.name) (by decide)
    · exact absurd named unframed.1
    · exact announces
  obtain ⟨length, announced⟩ := exists_announced? lengths
  rw [Http.body, announced]
  exact if_pos (isChunked_of_mem member isChunkedHeader)

/-- However a body is sent, it is received as it is. -/
theorem body_of_frames (frames : Frames body headers sent) : Http.body headers sent = .ok body := by
  cases frames with
  | length announces others =>
    obtain ⟨plain, announced⟩ := announced?_append announces others
    rw [Http.body, announced]
    -- A length that is too large is not heeded, but then all that is sent is the body.
    by_cases fits : body.length < Nat.pow 2 63
    · rw [if_pos fits]
      simp [plain]
    · rw [if_neg fits]
      simp [plain]
  | chunked coded carries whole => rw [coded.body_eq, Chunk.decode_of_carries carries, whole]
  | close others => simp [Http.body, isChunked_of_unframed others, announced?_eq_none others]

/-- Wherever a body breaks off, it is incomplete. -/
theorem body_of_breaks (breaks : Breaks headers sent) :
    Http.body headers sent = .error .partialBody := by
  cases breaks with
  | @length _ _ _ n _ announces fits others short =>
    obtain ⟨plain, announced⟩ := announced?_append announces others
    have small : n < Nat.pow 2 63 := fits
    rw [Http.body, announced, if_pos small]
    simp [plain, short]
  | chunked coded carries front short => rw [coded.body_eq, Chunk.decode_of_cut carries front short]

/-! ## Transfers -/

variable {σ : Type} {net : Network σ} {site : Site σ} {options : Options} {url : Url} {status : Nat}

/-- A transfer comes to a reply: at once, or behind as many redirects as are allowed. -/
structure Reaches (net : Network σ) (options : Options) (url : Url) (server : σ) (reply : Reply) :
    Prop where
  usable : options.isUsable
  asked : ∃ start visited last server', Address.ofText url.text = .ok start ∧ start.IsWeb ∧
    (∀ address ∈ visited ++ [last], net.refusal? address = none) ∧
    Redirects net start server visited last server' ∧ visited.length ≤ options.hops ∧
    (net.respond server' ⟨last⟩).1 = reply

/-- A status behind which there is a body, and at which a transfer ends. -/
structure HasBody (options : Options) (status : Nat) : Prop where
  final : 200 ≤ status
  body : status ≠ 204 ∧ status ≠ 304
  stays : options.followRedirects → ¬(300 ≤ status ∧ status < 400)

/-- The reply that a transfer comes to is what it gives, if it leads no further. -/
theorem get_of_reaches {reply : Reply} (reaches : Reaches net options url site.server reply)
    (stays : options.followRedirects → reply.redirect? = none) :
    ∃ detail : TransferFault → Option String, (get net options url site).1 =
      reply.receive.mapError fun fault => ⟨fault, detail fault⟩ := by
  obtain ⟨usable, start, visited, last, server, spelled, web, reachable, chain, within, rfl⟩ := reaches
  obtain ⟨answer, -⟩ := @get_of_isWeb _ net site _ _ _ usable spelled web
  refine ⟨_, answer.trans (congrArg (Except.mapError _) ?_)⟩
  cases follows : options.followRedirects with
  | true => exact (follow_of_end chain reachable within (turn_of_none (stays follows))).1
  | false =>
    -- No redirect is followed, so this is the reply to the first request.
    rw [Options.hops, follows] at within
    obtain rfl : visited = [] := List.length_eq_zero_iff.1 (Nat.le_zero.1 within)
    cases chain with
    | here => rw [follow_of_turn (reachable start (.head _)) rfl]

theorem HasBody.receive (hasBody : HasBody options status) {headers : List (String × String)}
    {sent : Bytes} : (Reply.message status headers sent).receive =
      (Http.body headers sent).map (⟨status, ·⟩) := by
  have counts : isBodiless status = false := by simp [isBodiless, hasBody.body]
  rw [Reply.receive, counts]
  cases Http.body headers sent <;> rfl

theorem HasBody.redirect? (hasBody : HasBody options status) (headers : List (String × String))
    (sent : Bytes) (follows : options.followRedirects) :
    (Reply.message status headers sent).redirect? = none := if_neg (hasBody.stays follows)

/-- However a body is sent, a transfer gives it as it is. -/
theorem get_of_frames (hasBody : HasBody options status)
    (reaches : Reaches net options url site.server (.message status headers sent))
    (frames : Frames body headers sent) : (get net options url site).1 = .ok ⟨status, body⟩ := by
  obtain ⟨detail, answer⟩ := get_of_reaches reaches (hasBody.redirect? headers sent)
  rw [answer, hasBody.receive, body_of_frames frames]
  rfl

/-- Wherever a body breaks off, a transfer fails. -/
theorem get_of_breaks (hasBody : HasBody options status)
    (reaches : Reaches net options url site.server (.message status headers sent))
    (breaks : Breaks headers sent) :
    ∃ detail, (get net options url site).1 = .error ⟨.partialBody, detail⟩ := by
  obtain ⟨detail, answer⟩ := get_of_reaches reaches (hasBody.redirect? headers sent)
  refine ⟨detail .partialBody, ?_⟩
  rw [answer, hasBody.receive, body_of_breaks breaks]
  rfl

end VectorFetch.Http

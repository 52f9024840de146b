import VectorFetch.Http.TransferError
import VectorFetch.Text.Radix
import VectorFetch.Text.Trim

/-!
# Replies and responses

* `Reply`: what a server sends: nothing at all, or a head and bytes behind it.
* `Reply.redirect?`: where a reply sends the reader.
* `Chunk.State`: chunked bodies, one byte at a time.
* `Reply.receive`: the response that a reply amounts to. A body is chunked, or as long
  as announced, or it ends with the connection.
-/

namespace VectorFetch.Http

/-! ## Replies -/

/-- What a server sends. -/
inductive Reply where
  /-- The connection is closed at once. -/
  | closed
  /-- A status, headers by name and value, and the bytes behind them up to the end of
  the connection. -/
  | message (status : Nat) (headers : List (String × String)) (sent : Bytes)
  deriving DecidableEq, Repr

/-- The result of a completed transfer. -/
structure Response where
  status : Nat
  body : Bytes
  deriving DecidableEq, Repr

/-- Whether the status says that the request succeeded. -/
def Response.isSuccess (r : Response) : Bool := 200 ≤ r.status && r.status < 300

/-! ## Headers -/

/-- Blanks as they may surround the value of a header. -/
def isBlank (c : Char) : Bool :=
  c = ' ' || c = '\t' || c = '\n' || c = '\x0b' || c = '\x0c' || c = '\r'

/-- The values of a header without the blanks around them. The name of the header is given in
lowercase. -/
def values (name : String) (headers : List (String × String)) : List (List Char) :=
  headers.filterMap fun (n, v) =>
    if n.toLower = name then some (Text.trim isBlank v.toList) else none

/-- Where a reply sends the reader: the first location that is not empty, of a reply
with a status from 300 to 399. -/
def Reply.redirect? : Reply → Option String
  | .closed => none
  | .message status headers _ =>
    if 300 ≤ status ∧ status < 400 then
      ((values "location" headers).find? fun v => !v.isEmpty).map String.ofList
    else none

/-! ## Chunked bodies -/

namespace Chunk

/-- Where in a chunked body a reader is. -/
inductive Phase where
  /-- Within the size of a chunk, behind so many digits. -/
  | size (digits value : Nat)
  /-- Behind the size, before the end of its line. -/
  | sizeLine (value : Nat)
  /-- Before so many bytes of a chunk. -/
  | data (left : Nat)
  /-- Behind the bytes of a chunk, before the end of its line. -/
  | dataLine
  /-- Within the trailer; `started` says whether its line has begun. -/
  | trailer (started : Bool)
  /-- Before the line feed of a line of the trailer. -/
  | trailerLine
  /-- Behind a line of the trailer. -/
  | lineStart
  /-- Before the last line feed. -/
  | lastLine
  /-- Behind the body. -/
  | done
  deriving DecidableEq, Repr

/-- A reader and the bytes it has read, the last one first. -/
structure State where
  phase : Phase
  body : Bytes
  deriving DecidableEq, Repr

/-- Before the first chunk. -/
def State.start : State := ⟨.size 0 0, []⟩

/-- The phase behind the line of a size: an empty chunk is the last one. -/
def afterSize (value : Nat) : Phase := if value = 0 then .trailer false else .data value

/-- The phase behind one more byte of a chunk, of which `left` were missing. -/
def afterData (left : Nat) : Phase := if left ≤ 1 then .dataLine else .data (left - 1)

/-- One more byte that belongs to no chunk. Without an answer the framing is broken. -/
def Phase.step (b : UInt8) : Phase → Option Phase
  | .size digits value =>
    match Radix.byteDigit? 16 b with
    | some d => if digits < 16 then some (.size (digits + 1) (16 * value + d)) else none
    | none =>
      if digits = 0 || Nat.pow 2 63 ≤ value then none
      else if b = 10 then some (afterSize value)
      else some (.sizeLine value)
  | .sizeLine value => some (if b = 10 then afterSize value else .sizeLine value)
  | .data left => some (afterData left)
  | .dataLine => if b = 10 then some (.size 0 0) else if b = 13 then some .dataLine else none
  | .trailer started =>
    if b = 13 then some (if started then .trailerLine else .lastLine)
    else if b = 10 then some (if started then .lineStart else .done)
    else some (.trailer true)
  | .trailerLine => if b = 10 then some .lineStart else none
  | .lineStart =>
    if b = 13 then some .lastLine else if b = 10 then some .done else some (.trailer true)
  | .lastLine => if b = 10 then some .done else none
  | .done => some .done

/-- One more byte. -/
def State.step (s : State) (b : UInt8) : Option State :=
  match s.phase with
  | .data left => some ⟨afterData left, b :: s.body⟩
  | phase => (phase.step b).map fun next => ⟨next, s.body⟩

/-- Byte after byte. -/
def State.run (s : State) : Bytes → Option State
  | [] => some s
  | b :: rest =>
    match s.step b with
    | some next => next.run rest
    | none => none

/-- The body of a chunked message. What follows the last chunk does not count. -/
def decode (sent : Bytes) : Except TransferFault Bytes :=
  match State.start.run sent with
  | none => .error .badFraming
  | some s => if s.phase = .done then .ok s.body.reverse else .error .partialBody

end Chunk

/-! ## Receiving -/

/-- Whether a body is sent in chunks. -/
def isChunked (headers : List (String × String)) : Bool :=
  (values "transfer-encoding" headers).any fun v => (String.ofList v).toLower = "chunked"

/-- The length that a header announces. One that does not fit 63 bits is none. -/
def length? (value : List Char) : Except TransferFault (Option Nat) :=
  match value.takeWhile fun c => '0' ≤ c && c ≤ '9' with
  | [] => .error .strangeReply
  | digits =>
    let n := digits.foldl (fun n c => n * 10 + (c.toNat - 48)) 0
    .ok (if n < Nat.pow 2 63 then some n else none)

/-- The announced length of a body, if there is one. Each header is read, and the last length
counts. -/
def announced? (headers : List (String × String)) : Except TransferFault (Option Nat) :=
  (values "content-length" headers).foldlM (fun before value => (length? value).map (·.or before))
    none

/-- Whether a reply with this status never has a body. -/
def isBodiless (status : Nat) : Bool := status = 204 || status = 304

def body (headers : List (String × String)) (sent : Bytes) : Except TransferFault Bytes :=
  match announced? headers with
  | .error e => .error e
  | .ok announced =>
    if isChunked headers then Chunk.decode sent
    else
      match announced with
      | some n => if sent.length < n then .error .partialBody else .ok (sent.take n)
      | none => .ok sent

/-- The response that a reply amounts to. -/
def Reply.receive : Reply → Except TransferFault Response
  | .closed => .error .noReply
  | .message status headers sent =>
    if isBodiless status then .ok ⟨status, []⟩
    else
      match Http.body headers sent with
      | .ok bytes => .ok ⟨status, bytes⟩
      | .error e => .error e

end VectorFetch.Http

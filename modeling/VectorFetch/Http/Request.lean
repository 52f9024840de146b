import VectorFetch.Http.Address

/-!
# Requests

* `Request`: a request for what an address names.
* `Request.head`: its lines as they are sent.
* `base64`: the form in which user name and password are sent.
-/

namespace VectorFetch.Http

/-! ## Base 64 -/

/-- The character of a number below sixty-four. -/
def base64Digit (n : Nat) : Char :=
  if n < 26 then Char.ofNat (65 + n)
  else if n < 52 then Char.ofNat (71 + n)
  else if n < 62 then Char.ofNat (n - 4)
  else if n = 62 then '+'
  else '/'

/-- Three bytes as four characters; missing bytes are marked at the end. -/
def base64 : Bytes → List Char
  | [] => []
  | [a] =>
    let n := a.toNat * 65536
    [base64Digit (n / 262144), base64Digit (n / 4096 % 64), '=', '=']
  | [a, b] =>
    let n := a.toNat * 65536 + b.toNat * 256
    [base64Digit (n / 262144), base64Digit (n / 4096 % 64), base64Digit (n / 64 % 64), '=']
  | a :: b :: c :: rest =>
    let n := a.toNat * 65536 + b.toNat * 256 + c.toNat
    base64Digit (n / 262144) :: base64Digit (n / 4096 % 64) :: base64Digit (n / 64 % 64)
      :: base64Digit (n % 64) :: base64 rest

/-! ## Requests -/

/-- A request for what an address names. -/
structure Request where
  address : Address
  deriving DecidableEq, Repr

namespace Request

/-- What is asked for. -/
def target (r : Request) : String := r.address.target

/-- User name and password as they are sent. -/
def authorization (credentials : String) : String :=
  let user := credentials.toList.takeWhile (· ≠ ':')
  let password := (credentials.toList.dropWhile (· ≠ ':')).drop 1
  let decode := fun s => Url.Percent.decode (Utf8.encodeChars s)
  "Basic " ++ String.ofList (base64 (decode user ++ [58] ++ decode password))

/-- The lines of a request. -/
def head (r : Request) : List String :=
  let user := match r.address.credentials with
    | some credentials => ["Authorization: " ++ authorization credentials]
    | none => []
  [s!"GET {r.target} HTTP/1.1", "Host: " ++ r.address.hostText] ++ user ++ ["Accept: */*"]

end Request

end VectorFetch.Http

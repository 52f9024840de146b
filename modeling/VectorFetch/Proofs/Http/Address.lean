import VectorFetch.Http.Address
import VectorFetch.Proofs.Text.Digits
import VectorFetch.Proofs.Text.Split
import VectorFetch.Proofs.Url

/-!
# The addresses of URLs

* `isHost_cases`: the hosts that can be asked.
* `readAuthority_text`: an authority that was written is read back.
* `ofText_text`: a URL of the web whose host can be asked has an address.
-/

namespace VectorFetch.Http.Address

open Url (Authority)

/-! ## Schemes -/

theorem scheme?_append {scheme : String} (letters : scheme.toList.all isSchemeChar)
    (first : scheme.toList.head?.any Url.Path.isLetter) (rest : List Char) :
    scheme? true (scheme.toList ++ ':' :: '/' :: rest) = some (scheme.toLower, '/' :: rest) := by
  have each : ∀ c ∈ scheme.toList, isSchemeChar c := List.all_eq_true.1 letters
  obtain ⟨front, behind⟩ := span_append (':' :: '/' :: rest) each
    (by rintro _ ⟨⟩; decide)
  cases spelled : scheme.toList with
  | nil => simp [spelled] at first
  | cons c more =>
    rw [spelled] at first front behind
    have letter : Url.Path.isLetter c := by simpa using first
    have name : String.ofList (c :: more) = scheme := by rw [← spelled, String.ofList_toList]
    rw [List.cons_append] at front behind ⊢
    simp [scheme?, letter, front, behind, name]

/-! ## Hosts -/

/-- A host stands in brackets, or it is a name without forbidden characters. -/
theorem isHost_cases {s : List Char} (named : isHost s) :
    (∃ inner, s = '[' :: (inner ++ [']']) ∧ ∀ c ∈ inner, isHexDigit c ∨ c = ':' ∨ c = '.') ∨
      s ≠ [] ∧ ∀ c ∈ s, ¬isForbiddenInHost c := by
  unfold isHost at named
  split at named
  next => cases named
  next rest =>
    simp only [Bool.and_eq_true, decide_eq_true_eq, List.all_eq_true, Bool.or_eq_true] at named
    obtain ⟨⟨last, -⟩, digits⟩ := named
    obtain ⟨inner, rfl⟩ := List.getLast?_eq_some_iff.1 last
    rw [List.dropLast_concat] at digits
    exact .inl ⟨inner, rfl, fun c member => or_assoc.1 (digits c member)⟩
  next notEmpty _ => exact .inr ⟨notEmpty, by simpa using named⟩

theorem not_mem_of_isHost {s : List Char} {c : Char} (named : isHost s)
    (notDigit : ¬isHexDigit c) (notMark : c ∉ [':', '.', '[', ']'])
    (forbidden : isForbiddenInHost c) : c ∉ s := by
  intro member
  rcases isHost_cases named with ⟨inner, rfl, digits⟩ | ⟨-, allowed⟩
  · simp only [List.mem_cons, List.mem_append, List.not_mem_nil, or_false, not_or] at member notMark
    rcases member with bracket | member | bracket
    · exact notMark.2.2.1 bracket
    · rcases digits c member with digit | colon | dot
      · exact notDigit digit
      · exact notMark.1 colon
      · exact notMark.2.1 dot
    · exact notMark.2.2.2 bracket
  · exact allowed c member forbidden

/-! ## Ports -/

theorem port?_toDigits {n : Nat} (small : n < 65536) : port? (Nat.toDigits 10 n) = some n := by
  have digits : (Nat.toDigits 10 n).all (fun c => '0' ≤ c && c ≤ '9') :=
    List.all_eq_true.2 fun c member => isDigit_of_mem_toDigits member
  have filled : (Nat.toDigits 10 n).isEmpty = false := by simp [Nat.toDigits_ne_nil]
  simp only [port?, digits, foldl_toDigits, filled, Bool.not_true, Bool.or_self, Bool.false_eq_true,
    if_false, if_pos small]

/-- The digits of a port behind the colon. -/
def portDigits (port : Option Nat) : Option (List Char) := port.map (Nat.toDigits 10)

theorem portText_eq (a : Authority) :
    a.portText.toList = (portDigits a.port).elim [] (':' :: ·) := by
  unfold Authority.portText portDigits
  cases a.port with
  | none => rfl
  | some n => simp [String.toList_append, Nat.repr_eq_ofList_toDigits]

theorem splitPort_append {host : List Char} (named : isHost host) (port : Option (List Char)) :
    splitPort (host ++ port.elim [] (':' :: ·)) = (host, port) := by
  rcases isHost_cases named with ⟨inner, rfl, digits⟩ | ⟨notEmpty, allowed⟩
  · -- The colons of an address in brackets are no mark of a port.
    have inside : ∀ c ∈ '[' :: inner, decide (c ≠ ']') := by
      refine List.forall_mem_cons.2 ⟨by decide, fun c member => decide_eq_true ?_⟩
      rintro rfl
      exact absurd (digits _ member) (by decide)
    obtain ⟨front, behind⟩ := span_append (']' :: port.elim [] (':' :: ·)) inside
      (by rintro _ ⟨⟩; decide)
    rw [List.cons_append] at front behind
    have text : '[' :: (inner ++ [']']) ++ port.elim [] (':' :: ·) =
        '[' :: (inner ++ ']' :: port.elim [] (':' :: ·)) := by simp
    simp only [text, splitPort, front, behind]
    cases port with
    | none => simp
    | some digits => simp
  · have inside : ∀ c ∈ host, decide (c ≠ ':') := by
      refine fun c member => decide_eq_true ?_
      rintro rfl
      exact allowed _ member (by decide)
    obtain ⟨front, behind⟩ := span_append (port.elim [] (':' :: ·)) inside
      (by cases port <;> simp)
    unfold splitPort
    split
    next rest bracket =>
      obtain ⟨c, more, rfl⟩ := List.exists_cons_of_ne_nil notEmpty
      obtain rfl := (List.cons.inj bracket).1
      exact absurd (by decide) (allowed '[' (.head _))
    next =>
      simp only [front, behind]
      cases port with
      | none => simp
      | some digits => simp

/-! ## Authorities -/

theorem not_mem_portDigits {c : Char} (port : Option Nat) (notColon : c ≠ ':')
    (notDigit : ¬c.isDigit) : c ∉ (portDigits port).elim [] (':' :: ·) := by
  cases port with
  | none => simp [portDigits]
  | some n =>
    simp only [portDigits, Option.map_some, Option.elim_some, List.mem_cons, not_or]
    exact ⟨notColon, fun member =>
      notDigit (Nat.isDigit_of_mem_toDigits (by decide) (by decide) member)⟩

theorem readAuthority_append {host : List Char} {port : Option Nat} (user : Option (List Char))
    (named : isHost host) (small : ∀ n, port = some n → n < 65536)
    (noAt : ∀ name ∈ user, '@' ∉ name) :
    readAuthority true (user.elim [] (· ++ ['@']) ++
      (host ++ (portDigits port).elim [] (':' :: ·))) =
        .ok (user.map String.ofList, String.ofList host, port) := by
  have place := splitPort_append named (portDigits port)
  have ends : '@' ∉ host ++ (portDigits port).elim [] (':' :: ·) := by
    simp only [List.mem_append, not_or]
    exact ⟨not_mem_of_isHost named (by decide) (by decide) (by decide),
      not_mem_portDigits port (by decide) (by decide)⟩
  -- From here on only the `@` before host and port matters.
  generalize host ++ (portDigits port).elim [] (':' :: ·) = hostAndPort at place ends ⊢
  have cut : ∀ name : List Char, '@' ∉ name → ∀ c ∈ name, decide (c ≠ '@') := by
    intro name clean c member
    refine decide_eq_true ?_
    rintro rfl
    exact clean member
  have number : portDigits port = none ∧ port = none ∨ ∃ c digits n,
      portDigits port = some (c :: digits) ∧ port? (c :: digits) = some n ∧ port = some n := by
    cases port with
    | none => exact .inl ⟨rfl, rfl⟩
    | some n =>
      obtain ⟨c, digits, spelled⟩ := List.exists_cons_of_ne_nil (@Nat.toDigits_ne_nil n 10)
      refine .inr ⟨c, digits, n, congrArg some spelled, ?_, rfl⟩
      rw [← spelled, port?_toDigits (small n rfl)]
  cases user with
  | none =>
    obtain ⟨-, behind⟩ := span_append [] (cut _ ends) nofun
    rw [List.append_nil] at behind
    simp only [readAuthority, Option.elim_none, List.nil_append, behind, place, named]
    rcases number with ⟨none, rfl⟩ | ⟨c, digits, n, some, value, rfl⟩
    · simp [none]
    · simp [some, value]
  | some name =>
    obtain ⟨front, behind⟩ := span_append ('@' :: hostAndPort) (cut name (noAt name rfl))
      (by rintro _ ⟨⟩; decide)
    simp only [readAuthority, Option.elim_some, List.append_assoc, List.singleton_append, front,
      behind, place, named]
    rcases number with ⟨none, rfl⟩ | ⟨c, digits, n, some, value, rfl⟩
    · simp [none]
    · simp [some, value]

/-- An authority that was written is read back. -/
theorem readAuthority_text {a : Authority} (sound : a.IsSound) (named : isHost a.host.text.toList) :
    ∃ user, readAuthority true a.text.toList = .ok (user, a.host.text, a.port) := by
  have encoded := sound.user
  simp only [List.mem_append] at encoded
  have username : '@' ∉ a.username.toList := fun member => encoded '@' (.inl member) (by decide)
  have password : '@' ∉ a.password.toList := fun member => encoded '@' (.inr member) (by decide)
  -- Names and passwords are encoded, so that the last `@` is the one behind them.
  obtain ⟨user, written, noAt⟩ : ∃ user : Option (List Char),
      a.credentials.toList = user.elim [] (· ++ ['@']) ∧ ∀ name ∈ user, '@' ∉ name := by
    unfold Authority.credentials
    split
    next => exact ⟨none, rfl, nofun⟩
    next =>
      split
      next => exact ⟨some a.username.toList, by simp [String.toList_append], by simpa using username⟩
      next =>
        refine ⟨some (a.username.toList ++ ':' :: a.password.toList), ?_, ?_⟩
        · simp [String.toList_append]
        · simpa using ⟨username, password⟩
  have read := readAuthority_append user named sound.port noAt
  rw [← written, ← portText_eq, ← String.toList_append, ← String.toList_append,
    ← String.append_assoc, String.ofList_toList] at read
  exact ⟨_, read⟩

/-- What is encoded in user names and stands in no host is nowhere in an authority. -/
theorem not_mem_text {a : Authority} {c : Char} (sound : a.IsSound)
    (named : isHost a.host.text.toList) (encoded : Url.Percent.inUserinfo c)
    (notMark : c ∉ [':', '@'])
    (notHost : ¬isHexDigit c ∧ c ∉ [':', '.', '[', ']'] ∧ isForbiddenInHost c)
    (notDigit : ¬c.isDigit) : c ∉ a.text.toList := by
  have user : c ∉ a.username.toList ∧ c ∉ a.password.toList := by
    rw [← not_or, ← List.mem_append]
    exact fun member => sound.user c member encoded
  have host := not_mem_of_isHost named notHost.1 notHost.2.1 notHost.2.2
  simp only [List.mem_cons, List.not_mem_nil, or_false, not_or] at notMark
  -- A character of the authority is one of its three parts or a mark between them.
  have port := not_mem_portDigits a.port notMark.1 notDigit
  have credentials : c ∉ a.credentials.toList := by
    unfold Authority.credentials
    split
    next => simp
    next =>
      split
      next => simp [String.toList_append, user, notMark]
      next => simp [String.toList_append, user, notMark]
  simp only [Authority.text, String.toList_append, List.mem_append, portText_eq, not_or]
  exact ⟨⟨credentials, host⟩, port⟩

/-! ## Whole URLs -/

/-- The characters that end the authority of an address. -/
def endsHost (c : Char) : Bool := c = '/' || c = '?' || c = '#'

theorem readBehindScheme_append {front behind : List Char} {host : String} {user : Option String}
    {port : Option Nat} (scheme : String) (inside : ∀ c ∈ front, !endsHost c)
    (ends : ∀ c ∈ behind.head?, endsHost c)
    (read : readAuthority true front = .ok (user, host, port)) (filled : front ≠ []) :
    ∃ address, readBehindScheme false scheme true ('/' :: '/' :: (front ++ behind)) = .ok address ∧
      address.scheme = scheme ∧ address.host = host ∧ address.port = port := by
  obtain ⟨authority, rest⟩ := span_append behind inside fun c first => by simp [ends c first]
  have slashes : ('/' :: '/' :: (front ++ behind)).dropWhile (· = '/') = front ++ behind := by
    obtain ⟨c, more, rfl⟩ := List.exists_cons_of_ne_nil filled
    have slash : ¬c = '/' := by
      rintro rfl
      exact absurd (inside '/' (.head _)) (by decide)
    simp [slash]
  have two : ('/' :: '/' :: (front ++ behind)).length - (front ++ behind).length = 2 := by
    simp only [List.length_cons]
    omega
  unfold endsHost at authority rest
  simp only [readBehindScheme, slashes, two, authority, rest, read]
  exact ⟨_, rfl, rfl, rfl, rfl⟩

theorem forall_head?_append {p : Char → Prop} {s t : List Char} (first : ∀ c ∈ s.head?, p c)
    (second : ∀ c ∈ t.head?, p c) : ∀ c ∈ (s ++ t).head?, p c := by
  cases s with
  | nil => exact second
  | cons c s => exact first

/-- What stands behind an authority starts with the mark of its part. -/
theorem endsHost_of_head? {url : Url} {names : List String} (path : url.path = .segments names) :
    ∀ c ∈ (url.path.text.toList ++ (url.queryText.toList ++ url.fragmentText.toList)).head?,
      endsHost c := by
  refine forall_head?_append ?_ (forall_head?_append ?_ ?_)
  · rw [path, Url.Location.text, String.toList_join]
    cases names with
    | nil => nofun
    | cons name names => simp [String.toList_append, endsHost]
  · unfold Url.queryText
    split
    next => simp [String.toList_append, endsHost]
    next => simp
  · unfold Url.fragmentText
    split
    next => simp [String.toList_append, endsHost]
    next => simp

/-- A URL of the web whose host can be asked has an address. -/
theorem ofText_text {url : Url} {a : Authority} (sound : url.IsSound)
    (web : url.scheme = "http" ∨ url.scheme = "https") (there : url.authority = some a)
    (named : isHost a.host.text.toList) :
    ∃ address, ofText url.text = .ok address ∧ address.scheme = url.scheme ∧
      address.host = a.host.text ∧ address.port = a.port := by
  obtain ⟨authority, names, path⟩ := sound.authority a there
  -- Spelled out so far, the text shows where each reader stops.
  have text : url.text.toList = url.scheme.toList ++ ':' :: '/' :: ('/' :: (a.text.toList ++
      (url.path.text.toList ++ (url.queryText.toList ++ url.fragmentText.toList)))) := by
    simp [Url.text, Url.stem, Url.origin, there, String.toList_append]
  have inside : ∀ c ∈ a.text.toList, !endsHost c := by
    intro c member
    rw [Bool.not_eq_true', Bool.eq_false_iff]
    intro mark
    simp only [endsHost, Bool.or_eq_true, decide_eq_true_eq] at mark
    rcases mark with (rfl | rfl) | rfl <;>
      exact not_mem_text authority named (by decide) (by decide) (by decide) (by decide) member
  have filled : a.text.toList ≠ [] := by
    have host : a.host.text.toList ≠ [] := by
      intro none
      rw [none] at named
      cases named
    simp [Authority.text, String.toList_append, host]
  obtain ⟨user, read⟩ := readAuthority_text authority named
  obtain ⟨address, behind, scheme, place⟩ := readBehindScheme_append url.scheme inside
    (endsHost_of_head? path) read filled
  obtain ⟨known, lower, notFile, letters, first⟩ : isKnownScheme url.scheme ∧
      url.scheme.toLower = url.scheme ∧ url.scheme ≠ "file" ∧
      url.scheme.toList.all isSchemeChar ∧ url.scheme.toList.head?.any Url.Path.isLetter := by
    rcases web with scheme | scheme <;> rw [scheme] <;> decide +kernel
  refine ⟨address, ?_, scheme, place⟩
  rw [ofText, text, scheme?_append letters first, lower]
  split
  next found => exact absurd (congrArg Prod.fst (Option.some.inj found)) notFile
  next found =>
    cases found
    simp only [behind, known, if_true]
  next found => cases found

end VectorFetch.Http.Address

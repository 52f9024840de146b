import VectorFetch.Proofs.Text.Digits
import VectorFetch.Proofs.Url.Host

/-!
# Authorities that were read

* `Authority.Stands`: what user, host and port hold however they were spelled.
* `Authority.Stands.readAuthority_append`: such an authority is read as it is written, up to what
  follows it.
* `stands_of_readAuthority`: it is so for every authority that is read.
-/

namespace VectorFetch.Url

/-- User, host and port stand for themselves. -/
structure Authority.Stands (kind : SchemeKind) (a : Authority) : Prop extends a.IsSound where
  host : a.host.Stands kind.isSpecial
  notDefault : a.port ≠ none → a.port ≠ kind.defaultPort?
  /-- There is no user of nothing, and no port of it. -/
  bare : a.host = .empty → kind.isSpecial = false ∧ a.username = "" ∧ a.password = "" ∧ a.port = none

/-! ## What stands in an authority, and what ends it -/

/-- Of what is not encoded everywhere only the space is a blank. -/
theorem not_blank {c : Char} (visible : ¬Percent.inControls c) (other : c ≠ ' ') :
    ¬isOuterBlank c := by
  intro blank
  have low : c.toNat ≤ 0x20 := of_decide_eq_true blank
  have shown : ¬c.toNat < 0x20 := fun control => visible (by simp [Percent.inControls, control])
  exact other (Char.toNat_inj.1 (show c.toNat = 0x20 by omega))

theorem not_blank_of_inUserinfo {c : Char} (encoded : ¬Percent.inUserinfo c) : ¬isOuterBlank c := by
  simp only [Percent.inUserinfo, Percent.inPath, Percent.inFragment, Bool.or_eq_true, not_or] at encoded
  refine not_blank encoded.1.1.1 ?_
  rintro rfl
  exact encoded.1.1.2 (by decide)

theorem endsAuthority_of_slash {c : Char} (ends : endsAuthority false c) (special : Bool) :
    endsAuthority special c := by
  unfold endsAuthority at ends ⊢
  simp_all

theorem mem_of_endsAuthority {special : Bool} {c : Char} (ends : endsAuthority special c) :
    c ∈ ['/', '?', '#', '\\'] := by
  unfold endsAuthority at ends
  simp only [Bool.or_eq_true, Bool.and_eq_true, decide_eq_true_eq] at ends
  simp only [List.mem_cons, List.not_mem_nil, or_false]
  tauto

theorem not_ends_of_inUserinfo {c : Char} (encoded : ¬Percent.inUserinfo c) (special : Bool) :
    ¬endsAuthority special c := by
  have delimiters : ∀ c ∈ ['/', '?', '#', '\\'], Percent.inUserinfo c :=
    List.all_iff_forall_prop.1 (by decide)
  exact fun ends => encoded (delimiters c (mem_of_endsAuthority ends))

namespace Host

theorem not_ends_of_isPlain {c : Char} (plain : isPlain c) (special : Bool) :
    ¬endsAuthority special c := by
  have delimiters : ∀ c ∈ ['/', '?', '#', '\\'], ¬isPlain c :=
    List.all_iff_forall_prop.1 (by decide)
  exact fun ends => delimiters c (mem_of_endsAuthority ends) plain

theorem IsWritten.mem {s : List Char} (written : IsWritten s) {c : Char} (member : c ∈ s) :
    c = '[' ∨ c = ':' ∨ c = ']' ∨ isPlain c := by
  cases written with
  | plain each => exact .inr (.inr (.inr (each c member)))
  | bracketed each =>
    simp only [List.mem_cons, List.mem_append, List.not_mem_nil, or_false] at member
    rcases member with bracket | inner | bracket
    · exact .inl bracket
    · exact (each c inner).elim (.inr ∘ .inl) (.inr ∘ .inr ∘ .inr)
    · exact .inr (.inr (.inl bracket))

theorem IsWritten.not_drive {s : List Char} (written : IsWritten s) : ¬Path.isDrive s := by
  intro drive
  obtain ⟨c, mark, same, letter, colon⟩ := Path.isDrive_iff.1 drive
  cases written with
  | plain each =>
    have plain := each mark (by simp [same])
    rcases colon with rfl | rfl <;> exact absurd plain (by decide)
  | bracketed =>
    obtain ⟨rfl, -⟩ := List.cons.inj same
    exact absurd letter (by decide)

/-! ## Lengths of hosts -/

theorem hostLength_append {special inside : Bool} {s : List Char}
    (through : ∀ c ∈ s, (c = ':' → inside) ∧ ¬endsAuthority special c ∧ c ≠ '[' ∧ c ≠ ']')
    (rest : List Char) :
    hostLength special inside (s ++ rest) = s.length + hostLength special inside rest := by
  induction s with
  | nil => simp
  | cons c s ih =>
    rw [List.forall_mem_cons] at through
    obtain ⟨⟨colon, ends, opening, closing⟩, more⟩ := through
    have stays : ¬((c = ':' && !inside) || endsAuthority special c) := by
      simp only [Bool.or_eq_true, Bool.and_eq_true, decide_eq_true_eq, Bool.not_eq_true', not_or,
        not_and]
      exact ⟨fun same => by simp [colon same], ends⟩
    rw [List.cons_append, hostLength, if_neg stays, if_neg opening, if_neg closing, ih more,
      List.length_cons]
    omega

/-- A host ends at a port or with the authority. -/
theorem IsWritten.hostLength {special : Bool} {s behind : List Char} (written : IsWritten s)
    (ends : ∀ c ∈ behind.head?, c = ':' ∨ endsAuthority special c) :
    hostLength special false (s ++ behind) = s.length := by
  have stops : Url.hostLength special false behind = 0 := by
    cases behind with
    | nil => rfl
    | cons c behind =>
      rw [Url.hostLength, if_pos]
      simpa using ends c rfl
  have through : ∀ c, isPlain c → ¬endsAuthority special c ∧ c ≠ '[' ∧ c ≠ ']' ∧ c ≠ ':' := by
    intro c plain
    refine ⟨not_ends_of_isPlain plain special, ?_, ?_, ?_⟩
    · rintro rfl
      exact absurd plain (by decide)
    · rintro rfl
      exact absurd plain (by decide)
    · rintro rfl
      exact absurd plain (by decide)
  cases written with
  | plain each =>
    rw [hostLength_append, stops, Nat.add_zero]
    intro c member
    obtain ⟨ends, opening, closing, colon⟩ := through c (each c member)
    exact ⟨fun same => absurd same colon, ends, opening, closing⟩
  -- The colons in brackets are passed over, up to the bracket that closes them.
  | @bracketed inner each =>
    have opened : Url.hostLength special false ('[' :: (inner ++ [']'] ++ behind)) =
        Url.hostLength special true (inner ++ (']' :: behind)) + 1 := by
      rw [Url.hostLength, if_neg (by cases special <;> decide), if_pos rfl, List.append_assoc]
      rfl
    have closed : Url.hostLength special true (']' :: behind) = 1 := by
      rw [Url.hostLength, if_neg (by cases special <;> decide), if_neg (by decide), if_pos rfl, stops]
    rw [List.cons_append, opened, hostLength_append, closed]
    · simp
    · intro c member
      rcases each c member with rfl | plain
      · exact ⟨fun _ => rfl, by cases special <;> decide, by decide, by decide⟩
      · obtain ⟨ends, opening, closing, -⟩ := through c plain
        exact ⟨fun _ => rfl, ends, opening, closing⟩

end Host

/-! ## User and password -/

theorem splitAtLastAt_eq_none {s : List Char} (plain : '@' ∉ s) : splitAtLastAt s = none := by
  induction s with
  | nil => rfl
  | cons c s ih =>
    rw [List.mem_cons, not_or] at plain
    rw [splitAtLastAt, ih plain.2]
    exact if_neg (Ne.symm plain.1)

theorem splitAtLastAt_append (front : List Char) {s : List Char} (plain : '@' ∉ s) :
    splitAtLastAt (front ++ '@' :: s) = some (front, s) := by
  induction front with
  | nil =>
    rw [List.nil_append, splitAtLastAt, splitAtLastAt_eq_none plain]
    rfl
  | cons c front ih => rw [List.cons_append, splitAtLastAt, ih]

/-- A user and a password as they are written. -/
def userText (username password : List Char) : List Char :=
  if password.isEmpty then username else username ++ ':' :: password

theorem credentials_toList (a : Authority) : a.credentials.toList =
    if a.username = "" ∧ a.password = "" then []
    else userText a.username.toList a.password.toList ++ ['@'] := by
  unfold Authority.credentials userText
  by_cases user : a.username = ""
  · by_cases password : a.password = ""
    · simp [user, password]
    · simp [user, password, String.toList_append]
  · by_cases password : a.password = ""
    · simp [user, password, String.toList_append]
    · simp [user, password, String.toList_append]

theorem userText_split {username : List Char} (plain : ':' ∉ username) (password : List Char) :
    (userText username password).takeWhile (· ≠ ':') = username ∧
      ((userText username password).dropWhile (· ≠ ':')).drop 1 = password := by
  have inside : ∀ c ∈ username, decide (c ≠ ':') :=
    fun c member => decide_eq_true fun same => plain (same ▸ member)
  unfold userText
  split
  next empty =>
    obtain ⟨front, behind⟩ := span_append [] inside nofun
    rw [List.append_nil] at front behind
    rw [front, behind, List.isEmpty_iff.1 empty]
    exact ⟨rfl, rfl⟩
  next =>
    obtain ⟨front, behind⟩ := span_append (':' :: password) inside (by rintro _ ⟨⟩; decide)
    rw [front, behind]
    exact ⟨rfl, rfl⟩

theorem mem_userText {username password : List Char} {c : Char}
    (member : c ∈ userText username password) : c = ':' ∨ c ∈ username ++ password := by
  unfold userText at member
  split at member
  next => exact .inr (List.mem_append_left _ member)
  next =>
    simp only [List.mem_append, List.mem_cons] at member ⊢
    tauto

theorem mem_credentials {a : Authority} (sound : a.IsSound) {c : Char}
    (member : c ∈ a.credentials.toList) : c = ':' ∨ c = '@' ∨ ¬Percent.inUserinfo c := by
  rw [credentials_toList] at member
  split at member
  next => cases member
  next =>
    rcases List.mem_append.1 member with text | mark
    · exact (mem_userText text).imp_right fun own => .inr (sound.user c own)
    · exact .inr (.inl (List.mem_singleton.1 mark))

theorem not_ends_of_mem_credentials {a : Authority} (sound : a.IsSound) {c : Char}
    (member : c ∈ a.credentials.toList) (special : Bool) : ¬endsAuthority special c := by
  rcases mem_credentials sound member with rfl | rfl | encoded
  · cases special <;> decide
  · cases special <;> decide
  · exact not_ends_of_inUserinfo encoded special

theorem readCredentials_append {special : Bool} {a : Authority} (sound : a.IsSound)
    {name behind : List Char} (plain : '@' ∉ name) (inside : ∀ c ∈ name, ¬endsAuthority special c)
    (ends : ∀ c ∈ behind.head?, endsAuthority special c) :
    readCredentials special (a.credentials.toList ++ (name ++ behind)) =
      .ok (a.username, a.password, name ++ behind) := by
  have encoded : ∀ s : String, (∀ c ∈ s.toList, ¬Percent.inUserinfo c) →
      String.ofList (Percent.encode Percent.inUserinfo s.toList) = s := by
    intro s each
    rw [Percent.encode_eq_self each, String.ofList_toList]
  have user := List.forall_mem_append.1 sound.user
  have through : ∀ c ∈ a.credentials.toList ++ name, !endsAuthority special c := by
    intro c member
    rw [Bool.not_eq_true', ← Bool.not_eq_true]
    exact (List.mem_append.1 member).elim (not_ends_of_mem_credentials sound · special) (inside c)
  obtain ⟨front, rest⟩ := span_append behind through (by simpa using ends)
  have colon : ':' ∉ a.username.toList := fun member => user.1 ':' member (by decide)
  obtain ⟨username, password⟩ := userText_split colon a.password.toList
  unfold readCredentials
  rw [← List.append_assoc, front, rest]
  dsimp only
  by_cases missing : a.username = "" ∧ a.password = ""
  · rw [credentials_toList, if_pos missing, List.nil_append, splitAtLastAt_eq_none plain, missing.1,
      missing.2]
  · rw [credentials_toList, if_neg missing, List.append_assoc, List.singleton_append,
      splitAtLastAt_append _ plain]
    split
    next none => cases none
    next empty =>
      -- With neither a user nor a password there would be no mark.
      obtain ⟨nothing, -⟩ := Prod.mk.inj (Option.some.inj empty)
      rw [nothing] at username password
      exact absurd ⟨String.toList_eq_nil_iff.1 username.symm,
        String.toList_eq_nil_iff.1 password.symm⟩ missing
    next same =>
      obtain ⟨rfl, rfl⟩ := Prod.mk.inj (Option.some.inj same)
      rw [username, password, encoded _ user.1, encoded _ user.2]

/-! ## Ports -/

theorem readPort_append {defaultPort : Option Nat} {n : Nat} (small : n < 65536)
    (other : some n ≠ defaultPort) {behind : List Char}
    (ends : ∀ c ∈ behind.head?, endsAuthority true c) :
    readPort defaultPort (Nat.toDigits 10 n ++ behind) = .ok (some n, behind) := by
  have digits : ∀ c ∈ Nat.toDigits 10 n, isDigit c := by
    intro c member
    simpa [isDigit] using IPv4.isDigit_of_mem member
  have stops : ∀ c ∈ behind.head?, ¬isDigit c := by
    have others : ∀ c ∈ ['/', '?', '#', '\\'], ¬isDigit c :=
      List.all_iff_forall_prop.1 (by decide)
    exact fun c first => others c (mem_of_endsAuthority (ends c first))
  obtain ⟨front, rest⟩ := span_append behind digits stops
  have value : digitsValue (Nat.toDigits 10 n) = n := foldl_toDigits n
  -- The default port is read as none, but `other` says that it is not this one.
  have some' : (if (Nat.toDigits 10 n).isEmpty || some n = defaultPort then none else some n) = some n := by
    simp [other, Nat.toDigits_ne_nil]
  unfold readPort
  simp only [front, rest, value]
  rw [if_neg (by omega)]
  split
  next c behind =>
    rw [if_pos (ends c rfl), some']
  next => rw [some']

theorem portText_toList (a : Authority) :
    a.portText.toList = a.port.elim [] fun n => ':' :: Nat.toDigits 10 n := by
  unfold Authority.portText
  cases a.port with
  | none => rfl
  | some n => simp [String.toList_append]

theorem mem_portText {a : Authority} {c : Char} (member : c ∈ a.portText.toList) :
    c = ':' ∨ Host.isPlain c := by
  rw [portText_toList] at member
  cases port : a.port with
  | none =>
    rw [port] at member
    cases member
  | some n =>
    rw [port] at member
    refine (List.mem_cons.1 member).imp_right fun digit => ?_
    exact Host.isPlain_of_isAllowed ((Host.isPlain_toDigits n).allowed c digit)

/-! ## Whole authorities -/

namespace Authority.Stands

variable {kind : SchemeKind} {a : Authority}

theorem readHostAndPort_append (stands : a.Stands kind) {behind : List Char}
    (ends : ∀ c ∈ behind.head?, endsAuthority false c) :
    readHostAndPort kind (a.host.text.toList ++ (a.portText.toList ++ behind)) =
      .ok (a.host, a.port, behind) := by
  have colon : ∀ c ∈ (a.portText.toList ++ behind).head?, c = ':' ∨ endsAuthority kind.isSpecial c := by
    rw [portText_toList]
    intro c first
    cases port : a.port with
    | none =>
      rw [port] at first
      exact .inr (endsAuthority_of_slash (ends c first) _)
    | some n =>
      rw [port] at first
      cases first
      exact .inl rfl
  have length := stands.host.written.hostLength colon
  unfold readHostAndPort
  dsimp only
  rw [length, List.take_left, List.drop_left, stands.host.again]
  have named : ¬(kind.isSpecial && a.host.text.toList.isEmpty) := by
    simp only [Bool.and_eq_true, List.isEmpty_iff, not_and]
    exact fun special => stands.host.filled (.inl special)
  rw [if_neg named]
  dsimp only
  rw [portText_toList]
  cases port : a.port with
  | none =>
    dsimp only [Option.elim_none, List.nil_append]
    split
    next => exact absurd (ends ':' rfl) (by decide)
    next => rfl
  | some n =>
    -- An authority with a port has a host.
    have there : a.port ≠ none := port ▸ Option.some_ne_none n
    have filled : a.host.text.toList ≠ [] :=
      stands.host.filled (.inr fun empty => there (stands.bare empty).2.2.2)
    have read := readPort_append (stands.toIsSound.port n port) (port ▸ stands.notDefault there)
      fun c first => endsAuthority_of_slash (ends c first) true
    simp only [Option.elim_some, List.cons_append, List.isEmpty_iff, filled, if_false, read]

theorem text_toList (a : Authority) :
    a.text.toList = a.credentials.toList ++ (a.host.text.toList ++ a.portText.toList) := by
  rw [Authority.text, String.toList_append, String.toList_append, List.append_assoc]

theorem mem_place (stands : a.Stands kind) {c : Char}
    (member : c ∈ a.host.text.toList ++ a.portText.toList) :
    c = '[' ∨ c = ':' ∨ c = ']' ∨ Host.isPlain c :=
  (List.mem_append.1 member).elim stands.host.written.mem fun port =>
    .inr ((mem_portText port).imp_right .inr)

theorem not_ends_of_mem_place (stands : a.Stands kind) {c : Char}
    (member : c ∈ a.host.text.toList ++ a.portText.toList) (special : Bool) :
    ¬endsAuthority special c := by
  rcases stands.mem_place member with rfl | rfl | rfl | plain
  · cases special <;> decide
  · cases special <;> decide
  · cases special <;> decide
  · exact Host.not_ends_of_isPlain plain special

theorem at_not_mem_place (stands : a.Stands kind) :
    '@' ∉ a.host.text.toList ++ a.portText.toList := by
  intro member
  rcases stands.mem_place member with same | same | same | plain
  · cases same
  · cases same
  · cases same
  · exact absurd plain (by decide)

/-- All of an authority belongs to it. -/
theorem not_ends_of_mem_text (stands : a.Stands kind) {c : Char} (member : c ∈ a.text.toList)
    (special : Bool) : ¬endsAuthority special c := by
  rw [text_toList] at member
  exact (List.mem_append.1 member).elim
    (not_ends_of_mem_credentials stands.toIsSound · special) (stands.not_ends_of_mem_place · special)

theorem not_blank_of_mem_text (stands : a.Stands kind) {c : Char} (member : c ∈ a.text.toList) :
    ¬isOuterBlank c := by
  rw [text_toList] at member
  rcases List.mem_append.1 member with user | place
  · rcases mem_credentials stands.toIsSound user with rfl | rfl | encoded
    · decide
    · decide
    · exact not_blank_of_inUserinfo encoded
  · rcases stands.mem_place place with rfl | rfl | rfl | plain
    · decide
    · decide
    · decide
    · simp only [Host.isPlain, Bool.and_eq_true, Bool.not_eq_true'] at plain
      refine not_blank (by simp [plain.2]) ?_
      rintro rfl
      exact absurd plain.1 (by decide)

theorem readAuthority_append (stands : a.Stands kind) {behind : List Char}
    (ends : ∀ c ∈ behind.head?, endsAuthority false c) :
    readAuthority kind (a.text.toList ++ behind) = .ok (a, behind) := by
  have user := readCredentials_append stands.toIsSound stands.at_not_mem_place
    (fun c member => stands.not_ends_of_mem_place member kind.isSpecial)
    fun c first => endsAuthority_of_slash (ends c first) _
  rw [text_toList, List.append_assoc, readAuthority, user]
  dsimp only
  rw [List.append_assoc, stands.readHostAndPort_append ends]
  dsimp only
  rw [if_neg]
  simp only [Bool.and_eq_true, decide_eq_true_eq, not_and]
  intro empty
  obtain ⟨-, username, password, -⟩ := stands.bare empty
  simp [username, password]

end Authority.Stands

/-! ## Authorities that were read -/

theorem readPort_ne {defaultPort : Option Nat} {s behind : List Char} {n : Nat}
    (read : readPort defaultPort s = .ok (some n, behind)) : some n ≠ defaultPort := by
  unfold readPort at read
  grind

theorem stands_of_parseAny {special : Bool} {name : List Char} {host : Host}
    (read : (if special then Host.parse name else Host.parseOpaque name) = .ok host) :
    host.Stands special ∧ (host = .empty → special = false ∧ name = []) := by
  cases special with
  | true =>
    refine ⟨Host.stands_of_parse read, ?_⟩
    rintro rfl
    exact absurd read Host.ne_empty_of_parse
  | false =>
    refine ⟨Host.stands_of_parseOpaque read, ?_⟩
    rintro rfl
    exact ⟨rfl, Host.eq_nil_of_parseOpaque read⟩

theorem stands_of_readHostAndPort {kind : SchemeKind} {s behind : List Char} {host : Host}
    {port : Option Nat} (read : readHostAndPort kind s = .ok (host, port, behind)) :
    host.Stands kind.isSpecial ∧ (port ≠ none → port ≠ kind.defaultPort?) ∧
      (host = .empty → kind.isSpecial = false ∧ port = none) := by
  unfold readHostAndPort at read
  dsimp only at read
  split at read
  next => cases read
  next =>
    split at read
    next => cases read
    next own named =>
      obtain ⟨stands, bare⟩ := stands_of_parseAny named
      split at read
      next =>
        split at read
        next => cases read
        next filled =>
          split at read
          next port rest spelled =>
            cases read
            refine ⟨stands, fun there => ?_, fun empty => ?_⟩
            · -- The default port is read as none.
              obtain ⟨n, rfl⟩ := Option.ne_none_iff_exists'.1 there
              exact readPort_ne spelled
            · rw [(bare empty).2] at filled
              exact absurd rfl filled
          next => cases read
      next =>
        cases read
        exact ⟨stands, fun there => absurd rfl there, fun empty => ⟨(bare empty).1, rfl⟩⟩

theorem stands_of_readAuthority {kind : SchemeKind} {s behind : List Char} {a : Authority}
    (read : readAuthority kind s = .ok (a, behind)) : a.Stands kind := by
  have sound := readAuthority_sound read
  unfold readAuthority at read
  split at read
  next => cases read
  next username password rest credentials =>
    split at read
    next => cases read
    next host port rest place =>
      obtain ⟨stands, other, bare⟩ := stands_of_readHostAndPort place
      split at read
      next => cases read
      next allowed =>
        cases read
        refine ⟨sound, stands, other, fun empty => ?_⟩
        have user : username = "" ∧ password = "" := by
          simpa [show host = .empty from empty] using allowed
        exact ⟨(bare empty).1, user.1, user.2, (bare empty).2⟩

end VectorFetch.Url

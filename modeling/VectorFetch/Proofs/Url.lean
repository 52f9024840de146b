import VectorFetch.Source

/-!
# URLs that were read

* `Percent.not_of_mem_encode`: what was encoded holds no character that has to be encoded.
* `Authority.IsSound`, `Url.IsSound`: what the parts of a URL hold however it was spelled.
* `IsSound.withPath`, `IsSound.sibling`: the path has no part in it, and a file beside it keeps it.
-/

namespace VectorFetch

namespace Url

/-- What was encoded holds no character that has to be encoded. -/
theorem Percent.not_of_mem_encode {set : Char → Bool} (mark : ¬set '%')
    (digits : ∀ n < 16, ¬set (digit n)) {c : Char} {s : List Char} (member : c ∈ encode set s) :
    ¬set c := by
  obtain ⟨x, -, member⟩ := List.mem_flatMap.1 member
  unfold encodeChar at member
  split at member
  next =>
    obtain ⟨b, -, member⟩ := List.mem_flatMap.1 member
    have small := b.toNat_lt
    simp only [encodeByte, List.mem_cons, List.not_mem_nil, or_false] at member
    rcases member with rfl | rfl | rfl
    · exact mark
    · exact digits _ (by omega)
    · exact digits _ (by omega)
  next plain =>
    obtain rfl := List.mem_singleton.1 member
    exact plain

/-! ## Authorities -/

/-- User name and password are encoded, and the port is one. -/
structure Authority.IsSound (a : Authority) : Prop where
  user : ∀ c ∈ a.username.toList ++ a.password.toList, ¬Percent.inUserinfo c
  port : ∀ n, a.port = some n → n < 65536

theorem Authority.isSound_ofHost (host : Host) : (Authority.ofHost host).IsSound :=
  ⟨by simp [ofHost], nofun⟩

theorem readCredentials_encoded {special : Bool} {s behind : List Char} {username password : String}
    (read : readCredentials special s = .ok (username, password, behind)) :
    ∀ c ∈ username.toList ++ password.toList, ¬Percent.inUserinfo c := by
  have encoded : ∀ t, ∀ c ∈ Percent.encode Percent.inUserinfo t, ¬Percent.inUserinfo c := fun t c =>
    Percent.not_of_mem_encode (by decide) (by decide)
  unfold readCredentials at read
  dsimp only at read
  split at read
  next =>
    cases read
    simp
  next =>
    split at read
    next =>
      cases read
      simp
    next => cases read
  next =>
    cases read
    simp only [String.toList_ofList, List.mem_append]
    exact fun c member => member.elim (encoded _ c) (encoded _ c)

theorem readPort_lt {defaultPort : Option Nat} {s behind : List Char} {n : Nat}
    (read : readPort defaultPort s = .ok (some n, behind)) : n < 65536 := by
  unfold readPort at read
  grind

theorem readHostAndPort_lt {kind : SchemeKind} {s behind : List Char} {host : Host} {n : Nat}
    (read : readHostAndPort kind s = .ok (host, some n, behind)) : n < 65536 := by
  unfold readHostAndPort at read
  dsimp only at read
  split at read
  next => cases read
  next =>
    split at read
    next => cases read
    next =>
      split at read
      next =>
        split at read
        next => cases read
        next =>
          split at read
          next port rest spelled =>
            cases read
            exact readPort_lt spelled
          next => cases read
      next => cases read

theorem readAuthority_sound {kind : SchemeKind} {s behind : List Char} {a : Authority}
    (read : readAuthority kind s = .ok (a, behind)) : a.IsSound := by
  unfold readAuthority at read
  split at read
  next => cases read
  next username password rest credentials =>
    split at read
    next => cases read
    next host port rest place =>
      split at read
      next => cases read
      next =>
        cases read
        refine ⟨readCredentials_encoded credentials, ?_⟩
        rintro n rfl
        exact readHostAndPort_lt place

/-! ## Whole URLs -/

/-- A URL with an authority has segments for its path, and the special schemes have one. -/
structure IsSound (url : Url) : Prop where
  authority : ∀ a, url.authority = some a → a.IsSound ∧ ∃ names, url.path = .segments names
  special : schemeKind url.scheme ≠ .other → url.authority.isSome

theorem IsSound.exists_authority {url : Url} (sound : url.IsSound)
    (web : url.scheme = "http" ∨ url.scheme = "https") : ∃ a, url.authority = some a := by
  refine Option.isSome_iff_exists.1 (sound.special ?_)
  rcases web with scheme | scheme <;> simp [scheme, schemeKind]

theorem IsSound.withPath {url : Url} (sound : url.IsSound) (path : String) :
    (url.withPath path).IsSound := by
  unfold Url.withPath
  dsimp only
  split
  next rootless =>
    have none : url.authority = none := by
      refine Option.eq_none_iff_forall_ne_some.2 fun a there => ?_
      obtain ⟨-, names, segments⟩ := sound.authority a there
      cases rootless.symm.trans segments
    have bare : ∀ location, IsSound { url with path := location } := by
      refine fun location => ⟨fun a there => ?_, sound.special⟩
      cases none.symm.trans there
    split
    next => exact bare _
    next => exact bare _
  next => exact ⟨fun a there => ⟨(sound.authority a there).1, _, rfl⟩, sound.special⟩

theorem IsSound.sibling {url beside : Url} {name : String} (sound : url.IsSound)
    (made : url.sibling name = .ok beside) : beside.IsSound := by
  unfold Url.sibling at made
  split at made
  next => cases made
  next =>
    cases made
    exact ⟨fun a there => ⟨(sound.authority a there).1, _, rfl⟩, sound.special⟩

end Url

end VectorFetch

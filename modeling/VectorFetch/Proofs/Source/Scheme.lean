import VectorFetch.Proofs.Http.Redirect
import VectorFetch.Proofs.Source

/-!
# Sources on this machine

* `NamesFile`, `scheme_of_ofText`: what makes an address one of a file of this machine.
* `Source.scheme_eq_file_iff`: all keys are files of this machine, or none is.
-/

namespace VectorFetch

namespace Http.Address

/-! ## Addresses of files -/

/-- The text has the scheme of a file of this machine. -/
def NamesFile (text : List Char) : Prop := ∃ rest, scheme? true text = some ("file", rest)

/-- The scheme ends where the first other character stands. -/
theorem namesFile_iff {name rest : List Char} {mark : Char} (inside : ∀ c ∈ name, isSchemeChar c)
    (ends : ¬isSchemeChar mark) : NamesFile (name ++ mark :: rest) ↔
      (name ++ [mark]).head?.any Url.Path.isLetter ∧ (String.ofList name).toLower = "file" ∧
        mark = ':' ∧ rest.head? = some '/' := by
  obtain ⟨taken, dropped⟩ := span_append (mark :: rest) inside (by simpa using ends)
  have first : (name ++ mark :: rest).head? = (name ++ [mark]).head? := by cases name <;> rfl
  obtain ⟨c, more, spelled⟩ := List.exists_cons_of_ne_nil (show name ++ mark :: rest ≠ [] by simp)
  rw [← first, spelled, List.head?_cons, Option.any_some]
  rw [spelled] at taken dropped
  simp only [NamesFile, scheme?, taken, dropped]
  by_cases letter : Url.Path.isLetter c
  · by_cases colon : mark = ':'
    · subst colon
      by_cases slash : rest.head? = some '/'
      · simp [letter, slash]
      · simp [letter, slash]
    · simp [letter, colon]
  · simp [letter]

/-- What follows the slash behind a scheme is no part of the scheme. -/
theorem namesFile_append {front : List Char} (colon : ':' ∈ front)
    (slash : front.getLast? = some '/') (name : List Char) :
    NamesFile (front ++ name) ↔ NamesFile front := by
  obtain ⟨mark, rest, ends⟩ : ∃ mark rest, front.dropWhile isSchemeChar = mark :: rest := by
    apply List.exists_cons_of_ne_nil
    intro none
    exact absurd (List.dropWhile_eq_nil_iff.1 none ':' colon) (by decide)
  have other : ¬isSchemeChar mark := by
    have outside := List.head?_dropWhile_not isSchemeChar front
    simpa [ends] using outside
  have inside : ∀ c ∈ front.takeWhile isSchemeChar, isSchemeChar c :=
    fun c member => List.all_eq_true.1 List.all_takeWhile c member
  have cut : front = front.takeWhile isSchemeChar ++ mark :: rest := by
    rw [← ends, List.takeWhile_append_dropWhile]
  generalize front.takeWhile isSchemeChar = before at inside cut
  subst cut
  rw [List.append_assoc, List.cons_append, namesFile_iff inside other, namesFile_iff inside other]
  cases rest with
  | nil =>
    -- The slash is no colon, so there is no scheme in either.
    obtain rfl : mark = '/' := by simpa using slash
    simp
  | cons c rest => rfl

theorem scheme_readFile {s : List Char} {address : Address} (read : readFile s = .ok address) :
    address.scheme = "file" := by
  unfold readFile at read
  dsimp only at read
  generalize readTail false = tail at read
  split at read
  next => cases read
  next path _ =>
    split at read
    next => cases read
    next =>
      cases read
      rfl

/-- The scheme of an address is that of the text. -/
theorem scheme_of_ofText {url : String} {address : Address} (read : ofText url = .ok address) :
    address.scheme = "file" ↔ NamesFile url.toList := by
  unfold ofText at read
  split at read
  next rest found =>
    exact iff_of_true (scheme_readFile read) ⟨rest, found⟩
  next scheme rest other found =>
    split at read
    next => cases read
    next behind =>
      split at read
      next =>
        cases read
        rw [scheme_readBehindScheme behind, NamesFile, found]
        constructor
        · rintro rfl
          exact ⟨rest, rfl⟩
        · rintro ⟨_, same⟩
          cases same
          rfl
      next => cases read
  next none =>
    rw [scheme_readBehindScheme read, NamesFile, none]
    exact iff_of_false (by decide) nofun

end Http.Address

namespace Source

/-! ## Sources -/

/-- Either all keys are files of this machine, or none is. -/
theorem scheme_eq_file_iff (source : Source) : ∃ isLocal : Prop, ∀ key url address,
    source.resource key = .ok url → Http.Address.ofText url.text = .ok address →
      (address.scheme = "file" ↔ isLocal) := by
  cases path : source.base.path with
  | rootless text =>
    refine ⟨False, fun key url address found => ?_⟩
    simp [resource, Url.sibling, path] at found
  | segments names =>
    -- The text up to the last slash is the same for all keys, and the scheme stands in front of it.
    let directory : Url :=
      { source.base with path := .segments (names.dropLast ++ [""]), query := none, fragment := none }
    have text : directory.text.toList = directory.origin.toList ++
        ((names.dropLast.flatMap fun name => '/' :: name.toList) ++ ['/']) := by
      simp [directory, Url.text, Url.stem, Url.Location.text, Url.queryText, Url.fragmentText,
        String.toList_join, List.flatMap_map, -List.map_dropLast]
    have colon : ':' ∈ directory.text.toList := by
      rw [text]
      apply List.mem_append_left
      unfold Url.origin
      split
      next => simp
      next => split <;> simp
    have slash : directory.text.toList.getLast? = some '/' := by
      rw [text]
      simp
    refine ⟨Http.Address.NamesFile directory.text.toList, fun key url address found read => ?_⟩
    rw [resource_of_segments path] at found
    cases found
    rw [Http.Address.scheme_of_ofText read, Url.text_beside, String.toList_append]
    exact Http.Address.namesFile_append colon slash _

end Source

end VectorFetch

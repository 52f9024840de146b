import VectorFetch.Proofs.Url.Authority

/-!
# URLs in their normal form

* `IsScheme`, `IsLayout`, `Url.IsNormal`: what the parts of a URL hold however it was spelled.
* `isNormal_of_parse`: it is so for every URL that is read.
* `isPath_of_parse`, `isSound_of_parse`: what follows for its path and for its authority.
-/

namespace VectorFetch.Url

/-! ## Schemes -/

/-- A scheme as it is kept. -/
structure IsScheme (s : List Char) : Prop where
  first : ∃ c rest, s = c :: rest ∧ Path.isLetter c
  each : ∀ c ∈ s, isSchemeChar c ∧ Domain.lower c = c

theorem lower_spec (c : Char) (member : isSchemeChar c) :
    isSchemeChar (Domain.lower c) ∧ Domain.lower (Domain.lower c) = Domain.lower c ∧
      (Path.isLetter c → Path.isLetter (Domain.lower c)) := by
  by_cases capital : 'A' ≤ c ∧ c ≤ 'Z'
  · have all : ∀ n, 65 ≤ n → n ≤ 90 → isSchemeChar (Domain.lower (Char.ofNat n)) ∧
        Domain.lower (Domain.lower (Char.ofNat n)) = Domain.lower (Char.ofNat n) ∧
          Path.isLetter (Domain.lower (Char.ofNat n)) := by decide
    obtain ⟨scheme, again, letter⟩ := all c.toNat capital.1 capital.2
    rw [Char.ofNat_toNat] at scheme again letter
    exact ⟨scheme, again, fun _ => letter⟩
  · have same : Domain.lower c = c := if_neg capital
    rw [same]
    exact ⟨member, same, id⟩

theorem isScheme_of_splitScheme {t s rest : List Char} (read : splitScheme t = some (s, rest)) :
    IsScheme s := by
  unfold splitScheme at read
  split at read
  next => cases read
  next c more =>
    split at read
    next letter =>
      split at read
      next =>
        cases read
        have inside : isSchemeChar c := by simp [isSchemeChar, letter]
        refine ⟨?_, fun d member => ?_⟩
        · rw [List.takeWhile_cons_of_pos inside]
          exact ⟨_, _, rfl, (lower_spec c inside).2.2 letter⟩
        · -- A letter is made small, and it is a character of a scheme still.
          obtain ⟨c, there, rfl⟩ := List.mem_map.1 member
          have own := lower_spec c (List.mem_takeWhile_imp there)
          exact ⟨own.1, own.2.1⟩
      next => cases read
    next => cases read

/-! ## Paths -/

namespace Path

namespace Walk

theorem done_finish_ne_nil (file : Bool) (w : Walk) (segment : List Char) :
    (w.finish file segment).done ≠ [] := by
  unfold finish
  split
  next => exact List.cons_ne_nil _ _
  next =>
    split
    next => exact List.cons_ne_nil _ _
    next =>
      rw [done_add]
      exact List.cons_ne_nil _ _

theorem done_run_ne_nil {pieces : List (List Char)} (filled : pieces ≠ []) (file : Bool) (w : Walk) :
    (w.run file pieces).done ≠ [] := by
  fun_induction run file w pieces with
  | case1 => exact absurd rfl filled
  | case2 w last => exact done_finish_ne_nil file w last
  | case3 w segment rest more ih => exact ih more

end Walk

theorem trimStart_ne_nil {names : List (List Char)} (filled : names ≠ []) : trimStart names ≠ [] := by
  fun_induction trimStart names with
  | case1 s rest ih => exact ih (List.cons_ne_nil _ _)
  | case2 => exact filled

theorem segments_ne_nil (special file : Bool) (before : List (List Char)) (s : List Char) :
    (segments special file before s).1 ≠ [] := by
  have pieces : (split special s).map (Percent.encode Percent.inPath) ≠ [] := by
    rw [ne_eq, List.map_eq_nil_iff]
    exact List.splitOnP_ne_nil _ s
  have done := Walk.done_run_ne_nil pieces file ⟨before, false⟩
  unfold segments
  dsimp only
  split
  next => exact trimStart_ne_nil (by simpa using done)
  next => simpa using done

end Path

theorem readSegments_ne_nil (kind : SchemeKind) (path : List Char) :
    (readSegments kind path).1 ≠ [] := by
  unfold readSegments
  split
  next =>
    split
    next => exact Path.segments_ne_nil _ _ _ _
    next => exact Path.segments_ne_nil _ _ _ _
  next => exact Path.segments_ne_nil _ _ _ _

theorem mem_pathText {special : Bool} {names : List (List Char)}
    (each : ∀ s ∈ names, Path.IsSegment special s) {c : Char} (member : c ∈ Path.text names) :
    c = '/' ∨ ¬Percent.inPath c := by
  obtain ⟨s, there, here⟩ := List.mem_flatMap.1 member
  exact (List.mem_cons.1 here).imp_right ((each s there).encoded c)

/-! ## Normal forms -/

/-- Authority and path of a URL, by the kind of its scheme. -/
inductive IsLayout : SchemeKind → Option Authority → Location → Prop where
  | file {host : Host} (stands : host = .empty ∨ host.Stands true ∧ host ≠ .domain "localhost")
    {names : List (List Char)} (filled : names ≠ []) (are : Path.AreSegments true true names) :
    IsLayout .file (some (.ofHost host)) (.ofSegments names)
  | authority {kind : SchemeKind} (notFile : kind.isFile = false) {a : Authority}
    (stands : a.Stands kind) {names : List (List Char)} (filled : kind.isSpecial → names ≠ [])
    (are : Path.AreSegments kind.isSpecial kind.isFile names) :
    IsLayout kind (some a) (.ofSegments names)
  | bare {names : List (List Char)} (filled : names ≠ [])
    (are : Path.AreSegments false false names) : IsLayout .other none (.ofSegments names)
  | rootless {text : List Char} (front : ∀ c ∈ text.head?, c ≠ '/')
    (each : ∀ c ∈ text, ¬Percent.inControls c ∧ ¬endsPath c) :
    IsLayout .other none (.rootless (String.ofList text))

/-- What the parts of a URL hold however it was spelled. -/
structure IsNormal (url : Url) : Prop where
  scheme : IsScheme url.scheme.toList
  layout : IsLayout (schemeKind url.scheme) url.authority url.path
  query : ∀ q, url.query = some q →
    ∀ c ∈ q.toList, ¬Percent.inQuery (schemeKind url.scheme).isSpecial c
  fragment : ∀ f, url.fragment = some f → ∀ c ∈ f.toList, ¬Percent.inFragment c
  /-- A path at the end has no blank there. -/
  closed : url.query = none → url.fragment = none →
    ∀ c ∈ url.path.text.toList.getLast?, ¬isOuterBlank c

/-! ## Ends of texts -/

theorem not_skipped_of_inControls {c : Char} (visible : ¬Percent.inControls c) : ¬isSkipped c := by
  intro skipped
  simp only [isSkipped, Bool.or_eq_true, decide_eq_true_eq] at skipped
  rcases skipped with (rfl | rfl) | rfl <;> exact visible (by decide)

theorem not_skipped_of_blank {c : Char} (shown : ¬isOuterBlank c) : ¬isSkipped c := by
  intro skipped
  simp only [isSkipped, Bool.or_eq_true, decide_eq_true_eq] at skipped
  rcases skipped with (rfl | rfl) | rfl <;> exact shown (by decide)

/-- What is encoded begins with a mark. -/
theorem Percent.head?_encode {set : Char → Bool} {s : List Char} {c : Char}
    (first : c ∈ (encode set s).head?) : c ∈ s.head? ∨ c = '%' := by
  cases s with
  | nil => cases first
  | cons d s =>
    obtain ⟨a, more, bytes, -⟩ := Utf8.utf8EncodeChar_eq_cons d
    rw [encode, List.flatMap_cons, encodeChar] at first
    split at first
    next =>
      rw [bytes] at first
      cases first
      exact .inr rfl
    next => exact .inl first

/-- What is encoded at the end of a text ends in a digit. -/
theorem Percent.getLast?_encode {set : Char → Bool} {s : List Char} {c : Char}
    (last : c ∈ (encode set s).getLast?) : c ∈ s.getLast? ∨ ∃ n < 16, c = digit n := by
  rcases List.eq_nil_or_concat s with rfl | ⟨front, x, rfl⟩
  · cases last
  · rw [List.concat_eq_append] at last ⊢
    rw [encode, List.flatMap_append, List.flatMap_singleton] at last
    obtain ⟨a, more, bytes, -⟩ := Utf8.utf8EncodeChar_eq_cons x
    -- An encoded character ends in the second digit of its last byte.
    obtain ⟨front', b, concat⟩ : ∃ front' b, String.utf8EncodeChar x = front' ++ [b] := by
      rcases List.eq_nil_or_concat (String.utf8EncodeChar x) with none | ⟨front', b, concat⟩
      · rw [bytes] at none
        cases none
      · exact ⟨front', b, by rw [concat, List.concat_eq_append]⟩
    unfold encodeChar at last
    split at last
    next =>
      have small := b.toNat_lt
      rw [concat, List.flatMap_append, List.flatMap_singleton, encodeByte, ← List.append_assoc] at last
      rw [List.getLast?_append_of_ne_nil _ (List.cons_ne_nil _ _)] at last
      cases last
      exact .inr ⟨b.toNat % 16, Nat.mod_lt _ (by decide), rfl⟩
    next =>
      refine .inl ?_
      simpa using last

/-- The characters of a text that count do not end in a blank. -/
theorem not_blank_of_getLast?_clean {s : String} : ∀ c ∈ (clean s).getLast?, ¬isOuterBlank c := by
  intro c last
  rw [clean, Text.trim, List.filter_reverse, List.getLast?_reverse] at last
  cases kept : (s.toList.dropWhile isOuterBlank).reverse.dropWhile isOuterBlank with
  | nil =>
    rw [kept] at last
    cases last
  | cons d rest =>
    have shown : ¬isOuterBlank d := by
      have first := List.head?_dropWhile_not isOuterBlank (s.toList.dropWhile isOuterBlank).reverse
      rw [kept] at first
      exact Bool.eq_false_iff.1 first
    rw [kept, List.filter_cons_of_pos (by simpa using not_skipped_of_blank shown)] at last
    cases last
    exact shown

theorem eq_of_splitTail {s path : List Char} (read : splitTail s = (path, none, none)) : path = s := by
  have parts : s.takeWhile (fun c => !endsPath c) ++ s.dropWhile (fun c => !endsPath c) = s :=
    List.takeWhile_append_dropWhile
  unfold splitTail at read
  dsimp only at read
  split at read
  next => split at read <;> cases read
  next => cases read
  next none =>
    cases read
    rwa [none, List.append_nil] at parts

/-- What follows the scheme ends as the whole does. -/
theorem getLast?_of_splitScheme {s scheme rest : List Char} {c : Char}
    (read : splitScheme s = some (scheme, rest)) (last : c ∈ rest.getLast?) : c ∈ s.getLast? := by
  unfold splitScheme at read
  split at read
  next => cases read
  next first more =>
    split at read
    next =>
      split at read
      next behind =>
        cases read
        rw [← List.takeWhile_append_dropWhile (p := isSchemeChar) (l := first :: more), behind,
          List.getLast?_append_of_ne_nil _ (List.cons_ne_nil _ _), List.getLast?_cons]
        rw [Option.mem_def] at last
        rw [last]
        rfl
      next => cases read
    next => cases read

theorem not_ends_of_mem_splitTail (s : List Char) : ∀ c ∈ (splitTail s).1, ¬endsPath c := by
  have path : (splitTail s).1 = s.takeWhile fun c => !endsPath c := by
    unfold splitTail
    dsimp only
    split
    next => split <;> rfl
    next => rfl
    next => rfl
  intro c member
  rw [path] at member
  simpa using List.mem_takeWhile_imp member

theorem isLayout_rootless {path : List Char} (front : ∀ rest, path = '/' :: rest → False)
    (inside : ∀ c ∈ path, ¬endsPath c) :
    IsLayout .other none (.rootless (String.ofList (Percent.encode Percent.inControls path))) := by
  refine .rootless ?_ fun c member => ⟨?_, fun ends => ?_⟩
  · rintro c first rfl
    rcases Percent.head?_encode first with own | mark
    · obtain ⟨rest, same⟩ := List.head?_eq_some_iff.1 own
      exact front rest same
    · cases mark
  · exact Percent.not_of_mem_encode (by decide) (by decide) member
  · -- What ends a path is no part of an encoded byte.
    refine inside c ?_ ends
    simp only [endsPath, Bool.or_eq_true, decide_eq_true_eq] at ends
    rcases ends with rfl | rfl
    · exact Percent.mem_of_mem_encode (by decide) (by decide) member
    · exact Percent.mem_of_mem_encode (by decide) (by decide) member

theorem not_blank_of_segments {special : Bool} {names : List (List Char)}
    (each : ∀ s ∈ names, Path.IsSegment special s) :
    ∀ c ∈ (Location.ofSegments names).text.toList.getLast?, ¬isOuterBlank c := by
  intro c last
  have member := List.mem_of_getLast? last
  rw [text_ofSegments] at member
  rcases mem_pathText each member with rfl | encoded
  · decide
  · simp only [Percent.inPath, Percent.inFragment, Bool.or_eq_true, not_or] at encoded
    refine not_blank encoded.1.1 ?_
    rintro rfl
    exact encoded.1.2 (by decide)

theorem isNormal_assemble {kind : SchemeKind} {scheme : List Char} {authority : Option Authority}
    {path : Location} {query fragment : Option (List Char)} (isScheme : IsScheme scheme)
    (kindIs : schemeKind (String.ofList scheme) = kind) (layout : IsLayout kind authority path)
    (closed : query = none → fragment = none → ∀ c ∈ path.text.toList.getLast?, ¬isOuterBlank c) :
    (assemble kind scheme authority path query fragment).IsNormal := by
  subst kindIs
  have encoded : ∀ {set : Char → Bool} {part : Option (List Char)} {text : String}, ¬set '%' →
      (∀ n < 16, ¬set (Percent.digit n)) →
      part.map (fun s => String.ofList (Percent.encode set s)) = some text →
      ∀ c ∈ text.toList, ¬set c := by
    intro set part text mark digits same c member
    obtain ⟨s, -, rfl⟩ := Option.map_eq_some_iff.1 same
    rw [String.toList_ofList] at member
    exact Percent.not_of_mem_encode mark digits member
  refine ⟨?_, layout, fun q same => ?_, fun f same => ?_, fun query fragment => closed ?_ ?_⟩
  · exact String.toList_ofList.symm ▸ isScheme
  · have set : ∀ special, ¬Percent.inQuery special '%' ∧
        ∀ n < 16, ¬Percent.inQuery special (Percent.digit n) := by decide
    exact encoded (set _).1 (set _).2 same
  · exact encoded (by decide) (by decide) same
  · exact Option.map_eq_none_iff.1 query
  · exact Option.map_eq_none_iff.1 fragment

theorem stands_of_readFileHost {s behind : List Char} {host : Host}
    (read : readFileHost s = .ok (host, behind)) :
    host = .empty ∨ host.Stands true ∧ host ≠ .domain "localhost" := by
  unfold readFileHost at read
  dsimp only at read
  split at read
  next =>
    cases read
    exact .inl rfl
  next =>
    split at read
    next => cases read
    next own named =>
      cases read
      split
      next => exact .inl rfl
      next other => exact .inr ⟨Host.stands_of_parse named, other⟩

theorem isNormal_of_parseFile {s : List Char} {url : Url} (read : parseFile s = .ok url) :
    url.IsNormal := by
  have isScheme : IsScheme "file".toList :=
    ⟨⟨'f', ['i', 'l', 'e'], by decide, by decide⟩, List.all_iff_forall_prop.1 (by decide)⟩
  have made : ∀ {host : Host} {names : List (List Char)} {query fragment : Option (List Char)},
      (host = .empty ∨ host.Stands true ∧ host ≠ .domain "localhost") → names ≠ [] →
      Path.AreSegments true true names →
      (assemble .file "file".toList (some (.ofHost host)) (.ofSegments names) query
        fragment).IsNormal := fun stands filled are =>
    isNormal_assemble isScheme (by decide) (.file stands filled are)
      fun _ _ => not_blank_of_segments are.each
  unfold parseFile at read
  dsimp only at read
  split at read
  next =>
    split at read
    next =>
      split at read
      next => cases read
      next host rest found =>
        -- A drive letter takes the place of the host, which is empty then.
        have stands : ∀ drive : Bool, (if drive then Host.empty else host) = .empty ∨
            (if drive then Host.empty else host).Stands true ∧
              (if drive then Host.empty else host) ≠ .domain "localhost" := by
          intro drive
          cases drive with
          | true => exact .inl rfl
          | false => exact stands_of_readFileHost found
        cases read
        split
        next =>
          exact made (stands _) (Path.segments_ne_nil _ _ _ _) (Path.areSegments_segments _ _ _)
        next =>
          exact made (stands _) (readSegments_ne_nil _ _) (areSegments_readSegments .file _)
    next =>
      cases read
      exact made (.inl rfl) (readSegments_ne_nil _ _) (areSegments_readSegments .file _)
  next =>
    cases read
    exact made (.inl rfl) (readSegments_ne_nil _ _) (areSegments_readSegments .file _)

theorem isNormal_of_parseBehindSlashes {kind : SchemeKind} {scheme s : List Char} {url : Url}
    (isScheme : IsScheme scheme) (kindIs : schemeKind (String.ofList scheme) = kind)
    (notFile : kind.isFile = false) (read : parseBehindSlashes kind scheme s = .ok url) :
    url.IsNormal := by
  unfold parseBehindSlashes at read
  split at read
  next => cases read
  next found =>
    cases read
    -- Only without a path the URL has no segments, and a special scheme has a path always.
    have are : ∀ path : List Char, Path.AreSegments kind.isSpecial kind.isFile
        (if path.isEmpty && !kind.isSpecial then [] else (readSegments kind path).1) := by
      intro path
      split
      next => exact ⟨nofun, nofun⟩
      next => exact areSegments_readSegments kind path
    refine isNormal_assemble isScheme kindIs
      (.authority notFile (stands_of_readAuthority found) ?_ (are _))
      fun _ _ => not_blank_of_segments (are _).each
    intro special
    rw [if_neg (by simp [special])]
    exact readSegments_ne_nil kind _

/-- The parts of a URL that was read are in their normal form. -/
theorem isNormal_of_parse {text : String} {url : Url} (read : parse text = .ok url) :
    url.IsNormal := by
  unfold parse at read
  split at read
  next => cases read
  next scheme rest found =>
    have isScheme := isScheme_of_splitScheme found
    dsimp only at read
    split at read
    next => exact isNormal_of_parseFile read
    next kindIs => exact isNormal_of_parseBehindSlashes isScheme rfl (by rw [kindIs]; rfl) read
    next kindIs =>
      split at read
      next => exact isNormal_of_parseBehindSlashes isScheme rfl (by rw [kindIs]; rfl) read
      next =>
        split at read
        next =>
          cases read
          rw [kindIs]
          have are := areSegments_readSegments .other (splitTail rest).1
          exact isNormal_assemble isScheme kindIs (.bare (readSegments_ne_nil _ _) are)
            fun _ _ => not_blank_of_segments are.each
        next front =>
          cases read
          rw [kindIs]
          refine isNormal_assemble isScheme kindIs
            (isLayout_rootless front (not_ends_of_mem_splitTail rest)) fun query fragment => ?_
          -- With nothing behind the path its end is that of the text, where blanks were cut off.
          have whole : (splitTail rest).1 = rest :=
            eq_of_splitTail (Prod.ext rfl (Prod.ext query fragment))
          rw [whole, Location.text, String.toList_ofList]
          intro c last
          rcases Percent.getLast?_encode last with own | ⟨n, small, rfl⟩
          · exact not_blank_of_getLast?_clean c (getLast?_of_splitScheme found own)
          · have digits : ∀ n < 16, ¬isOuterBlank (Percent.digit n) := by decide
            exact digits n small

/-! ## Paths and authorities -/

theorem isPath_of_parse {text : String} {url : Url} (read : parse text = .ok url) :
    IsPath (schemeKind url.scheme) url.path := by
  have layout := (isNormal_of_parse read).layout
  generalize schemeKind url.scheme = kind at layout ⊢
  generalize url.authority = authority at layout
  generalize url.path = path at layout ⊢
  cases layout with
  | file stands filled are => exact .segments are
  | authority notFile stands filled are => exact .segments are
  | bare filled are => exact .segments are
  | rootless => exact .rootless _

theorem isSound_of_parse {text : String} {url : Url} (read : parse text = .ok url) :
    url.IsSound := by
  have layout := (isNormal_of_parse read).layout
  obtain ⟨scheme, authority, path, query, fragment⟩ := url
  dsimp only at layout
  generalize kindIs : schemeKind scheme = kind at layout
  cases layout with
  | file =>
    refine ⟨?_, fun _ => rfl⟩
    rintro _ ⟨⟩
    exact ⟨Authority.isSound_ofHost _, _, rfl⟩
  | authority notFile stands =>
    refine ⟨?_, fun _ => rfl⟩
    rintro _ ⟨⟩
    exact ⟨stands.toIsSound, _, rfl⟩
  | bare => exact ⟨nofun, fun special => absurd kindIs special⟩
  | rootless => exact ⟨nofun, fun special => absurd kindIs special⟩

end VectorFetch.Url

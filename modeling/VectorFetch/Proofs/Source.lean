import VectorFetch.Proofs.Files
import VectorFetch.Proofs.Url.Normal

/-!
# The URLs of a source

* `Url.withPath_slash`: a slash behind a path keeps its segments.
* `Url.text_beside`: the URL of a name is that of its directory, and the name.
* `Source.parse_fixedText`: the fixed source is what its text is read as.
* `Source.isSound_of_resource`: the URLs of a source that was read are sound.
* `Source.resources_distinct`: all keys have URLs, and different ones, or none has one.
* `Source.Hierarchical`, `Source.Rootless`, `Source.resource_of_parse`: the URLs of the keys, for
  every text that is a source.
-/

namespace VectorFetch

namespace Url

/-! ## Directories -/

theorem endsWith_slash (s : String) : s.endsWith "/" ↔ ['/'] <:+ s.toList := by
  rw [String.endsWith_eq_endsWith_toSlice, String.Slice.endsWith_string_iff]
  simp

/-- A slash behind a path that has none keeps its segments, but a drive letter gets its colon. -/
theorem withPath_slash {url : Url} {names : List (List Char)}
    (path : url.path = .ofSegments names)
    (are : Path.AreSegments (schemeKind url.scheme).isSpecial (schemeKind url.scheme).isFile names)
    (missing : names.getLast? ≠ some []) :
    url.withPath (url.path.text ++ "/") = { url with
      path := .ofSegments (Path.respelled (schemeKind url.scheme).isFile names ++ [[]]) } := by
  have spelled : (url.path.text ++ "/").toList = Path.text (names ++ [[]]) := by
    rw [String.toList_append, path, text_ofSegments, Path.text_append]
    rfl
  have read := readSegments_text (by simp) (are.snoc missing)
  unfold withPath
  dsimp only
  rw [spelled, read, Path.respelled_snoc]
  simp only [path, Location.ofSegments]

/-- The last segment has no part in what stands before the path. -/
theorem origin_beside (url : Url) (front : List String) (name other : String) :
    Url.origin { url with path := .segments (front ++ [name]) } =
      Url.origin { url with path := .segments (front ++ [other]) } := by
  obtain ⟨scheme, authority, path, query, fragment⟩ := url
  cases authority with
  | some a => rfl
  | none =>
    -- Only the first of at least two segments counts.
    have twoSegments : ∀ first second second' rest rest',
        Url.origin ⟨scheme, none, .segments (first :: second :: rest), query, fragment⟩ =
        Url.origin ⟨scheme, none, .segments (first :: second' :: rest'), query, fragment⟩ := by
      intro first second second' rest rest'
      by_cases empty : first = ""
      · simp [Url.origin, empty]
      · simp [Url.origin, empty]
    cases front with
    | nil => simp [Url.origin]
    | cons first rest =>
      cases rest with
      | nil => exact twoSegments first name other [] []
      | cons second rest => exact twoSegments first second second _ _

/-- The URL of a name is that of its directory, and the name. -/
theorem text_beside (url : Url) (front : List String) (name : String) :
    Url.text { url with path := .segments (front ++ [name]), query := none, fragment := none } =
      Url.text { url with path := .segments (front ++ [""]), query := none, fragment := none } ++
        name := by
  have origin := origin_beside { url with query := none, fragment := none } front name ""
  have path : (Location.segments (front ++ [name])).text =
      (Location.segments (front ++ [""])).text ++ name := by
    simp [Location.text, ← String.toList_inj]
  simp only [Url.text, stem, queryText, fragmentText, origin, path, String.append_empty,
    String.append_assoc]

end Url

/-! ## Sources -/

namespace Source

/-- The source of a URL with segments. -/
structure Hierarchical (url : Url) (source : Source) : Prop where
  scheme : source.base.scheme = url.scheme
  /-- User info, host and port. -/
  authority : source.base.authority = url.authority
  /-- All segments are kept, and a slash follows them if there is none. A drive letter at the start
  of the path of a file has a colon. -/
  path : ∃ names, url.path = .ofSegments names ∧
    (names.getLast? = some [] ∧ source.base = url ∨
      names.getLast? ≠ some [] ∧ source.base.path =
        .ofSegments (Url.Path.respelled (Url.schemeKind url.scheme).isFile names ++ [[]]))
  slash : source.base.path.text.endsWith "/"
  resource : ∀ key, ∃ found, source.resource key = .ok found ∧ found.scheme = url.scheme ∧
    found.authority = url.authority ∧
    found.text = { source.base with query := none, fragment := none }.text ++ key.text ++ ".json"

/-- The source of a URL whose path has no structure. -/
structure Rootless (url : Url) (source : Source) : Prop where
  path : ∃ text, url.path = .rootless text
  base : ∃ text, source.base.path = .rootless text
  resource : ∀ key, source.resource key = .error .opaqueBase

theorem resource_of_segments {source : Source} {names : List String}
    (path : source.base.path = .segments names) (key : Key) :
    source.resource key = .ok { source.base with
      path := .segments (names.dropLast ++ [key.fileName]), query := none, fragment := none } := by
  simp only [resource, Url.sibling, path]

/-- The files of a directory. -/
theorem exists_resource {source : Source} {front : List String}
    (path : source.base.path = .segments (front ++ [""])) (key : Key) :
    ∃ found, source.resource key = .ok found ∧ found.scheme = source.base.scheme ∧
      found.authority = source.base.authority ∧
      found.text = { source.base with query := none, fragment := none }.text ++ key.text ++
        ".json" := by
  refine ⟨_, resource_of_segments path key, rfl, rfl, ?_⟩
  rw [List.dropLast_concat, Url.text_beside, ← path, Key.fileName, String.append_assoc]

/-- The URLs of two keys differ, whatever the source is. -/
theorem resources_distinct (source : Source) :
    (∃ urls : Key → Url, (∀ key, source.resource key = .ok (urls key)) ∧
      ∀ a b, (urls a).text = (urls b).text → a = b) ∨
    ∃ fault, ∀ key, source.resource key = .error fault := by
  cases path : source.base.path with
  | rootless text => exact .inr ⟨.opaqueBase, fun key => by simp only [resource, Url.sibling, path]⟩
  | segments names =>
    refine .inl ⟨_, resource_of_segments path, fun a b same => ?_⟩
    rw [Url.text_beside, Url.text_beside source.base _ b.fileName] at same
    exact Key.fileName_injective ((String.append_right_inj _).1 same)

/-! ## Sources that were read -/

theorem parse_eq_ok {text : String} {source : Source} (read : parse text = .ok source) :
    ∃ url, Url.parse text = .ok url ∧
      (url.path.text.endsWith "/" ∧ source.base = url ∨
        ¬url.path.text.endsWith "/" ∧ source.base = url.withPath (url.path.text ++ "/")) := by
  unfold parse at read
  split at read
  next => cases read
  next url spelled =>
    refine ⟨url, spelled, ?_⟩
    split at read
    next ends =>
      cases read
      exact .inl ⟨ends, rfl⟩
    next missing =>
      cases read
      exact .inr ⟨missing, rfl⟩

theorem parse_fixedText : parse fixedText = .ok fixed := by decide +kernel

/-- The URLs of the files of a source that was read are sound. -/
theorem isSound_of_resource {text : String} {source : Source} {key : Key} {url : Url}
    (read : parse text = .ok source) (found : source.resource key = .ok url) : url.IsSound := by
  obtain ⟨own, spelled, made⟩ := parse_eq_ok read
  have sound := Url.isSound_of_parse spelled
  have base : source.base.IsSound := by
    rcases made with ⟨-, same⟩ | ⟨-, same⟩
    · exact same ▸ sound
    · exact same ▸ sound.withPath _
  exact base.sibling found

/-- A URL with segments gives a directory. -/
theorem hierarchical_of_base {url : Url} {source : Source} {names : List (List Char)}
    (kept : List (List Char)) (segments : url.path = .ofSegments names)
    (scheme : source.base.scheme = url.scheme) (authority : source.base.authority = url.authority)
    (path : source.base.path = .ofSegments (kept ++ [[]]))
    (same : names.getLast? = some [] ∧ source.base = url ∨
      names.getLast? ≠ some [] ∧
        kept = Url.Path.respelled (Url.schemeKind url.scheme).isFile names) :
    Hierarchical url source where
  scheme
  authority
  path := ⟨names, segments, same.imp_right fun ⟨missing, read⟩ => ⟨missing, read ▸ path⟩⟩
  slash := by
    rw [path, Url.endsWith_slash, Url.text_ofSegments, Url.Path.text_append]
    exact List.suffix_append _ _
  resource key := by
    have concat : source.base.path = .segments (kept.map String.ofList ++ [""]) := by
      rw [path, Url.Location.ofSegments, List.map_append]
      rfl
    obtain ⟨found, made, foundScheme, foundAuthority, text⟩ := exists_resource concat key
    exact ⟨found, made, foundScheme.trans scheme, foundAuthority.trans authority, text⟩

theorem hierarchical_of_parse {source : Source} {url : Url} {names : List (List Char)}
    (segments : url.path = .ofSegments names)
    (are : Url.Path.AreSegments (Url.schemeKind url.scheme).isSpecial
      (Url.schemeKind url.scheme).isFile names)
    (made : url.path.text.endsWith "/" ∧ source.base = url ∨
      ¬url.path.text.endsWith "/" ∧ source.base = url.withPath (url.path.text ++ "/")) :
    Hierarchical url source := by
  rw [segments, Url.endsWith_slash, Url.text_ofSegments, Url.Path.endsInSlash_text are.each,
    ← segments] at made
  rcases made with ⟨ends, same⟩ | ⟨missing, same⟩
  · obtain ⟨kept, concat⟩ := List.getLast?_eq_some_iff.1 ends
    exact hierarchical_of_base kept segments (by rw [same]) (by rw [same])
      (by rw [same, segments, concat]) (.inl ⟨ends, same⟩)
  · rw [Url.withPath_slash segments are missing] at same
    exact hierarchical_of_base _ segments (by rw [same]) (by rw [same]) (by rw [same])
      (.inr ⟨missing, rfl⟩)

theorem rootless_of_parse {source : Source} {url : Url} {text : String}
    (rootless : url.path = .rootless text)
    (made : source.base = url ∨ source.base = url.withPath (url.path.text ++ "/")) :
    Rootless url source := by
  have base : ∃ text, source.base.path = .rootless text := by
    rcases made with same | same
    · exact ⟨text, same ▸ rootless⟩
    · unfold Url.withPath at same
      rw [rootless] at same
      dsimp only at same
      split at same
      next => exact ⟨_, congrArg Url.path same⟩
      next => exact ⟨_, congrArg Url.path same⟩
  refine ⟨⟨text, rootless⟩, base, fun key => ?_⟩
  obtain ⟨text, path⟩ := base
  simp only [resource, Url.sibling, path]

/-- For every text that is a source of segments, each key has a URL: that of the directory and the
name of the file. Where the path has no segments no key has one. -/
theorem resource_of_parse (text : String) :
    (∀ source, parse text = .ok source → ∃ url, Url.parse text = .ok url ∧
      (Hierarchical url source ∨ Rootless url source)) ∧
    ∀ source : Source,
      (∃ urls : Key → Url, (∀ key, source.resource key = .ok (urls key)) ∧
        ∀ a b, (urls a).text = (urls b).text → a = b) ∨
      ∃ fault, ∀ key, source.resource key = .error fault := by
  refine ⟨fun source read => ?_, resources_distinct⟩
  obtain ⟨url, spelled, made⟩ := parse_eq_ok read
  refine ⟨url, spelled, ?_⟩
  have isPath := Url.isPath_of_parse spelled
  generalize located : url.path = path at isPath
  cases isPath with
  | rootless text => exact .inr (rootless_of_parse located (made.imp And.right And.right))
  | segments are => exact .inl (hierarchical_of_parse located are made)

/-- Empty segments before the letter of a drive, and a fragment. -/
theorem resource_of_parse_of_drive :
    let source : Source := ⟨⟨"file", some (.ofHost .empty), .segments ["c:", ""], none, some "f"⟩⟩
    parse "file:////c|#f" = .ok source ∧
      (source.resource (.ofNat 27)).map Url.text = .ok "file:///c:/1b.json" ∧
      ∃ url, Url.parse "file:////c|#f" = .ok url ∧
        (Hierarchical url source ∨ Rootless url source) := by
  intro source
  have read : parse "file:////c|#f" = .ok source := by decide +kernel
  exact ⟨read, by decide +kernel, (resource_of_parse "file:////c|#f").1 source read⟩

end Source

end VectorFetch

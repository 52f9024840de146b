import VectorFetch.Proofs.Source
import VectorFetch.Proofs.Url.RoundTrip

/-!
# Sources that are read again

* `Source.isNormal_base`: the directory of a source is a URL in its normal form.
* `Source.parse_base`: query and fragment of a source are those of its text. Its path ends in a
  slash, and the text of the directory is read as the source, but for a URL with nothing behind its
  scheme and for a host whose path begins with a drive letter.
-/

namespace VectorFetch

namespace Url

/-! ## Other paths -/

theorem IsLayout.ofSegments {kind : SchemeKind} {authority : Option Authority} {before : List String}
    (layout : IsLayout kind authority (.segments before)) {names : List (List Char)}
    (filled : names ≠ []) (are : Path.AreSegments kind.isSpecial kind.isFile names) :
    IsLayout kind authority (.ofSegments names) := by
  generalize path : Location.segments before = location at layout
  cases layout with
  | file stands => exact .file stands filled are
  | authority notFile stands => exact .authority notFile stands (fun _ => filled) are
  | bare => exact .bare filled are
  | rootless => cases path

namespace IsNormal

variable {url : Url}

theorem withPath_segments (normal : url.IsNormal) {names : List String}
    (segments : url.path = .segments names) (path : String) : (url.withPath path).IsNormal := by
  have layout := normal.layout
  rw [segments] at layout
  have are := areSegments_readSegments (schemeKind url.scheme) path.toList
  have made : url.withPath path = { url with
      path := .ofSegments (readSegments (schemeKind url.scheme) path.toList).1 } := by
    simp only [withPath, segments]
  rw [made]
  exact {
    scheme := normal.scheme
    layout := layout.ofSegments (readSegments_ne_nil _ _) are
    query := normal.query
    fragment := normal.fragment
    closed := fun _ _ => not_blank_of_segments are.each }

/-- What a path without structure is made of. -/
theorem rootless_spec (normal : url.IsNormal) {text : String} (rootless : url.path = .rootless text) :
    schemeKind url.scheme = .other ∧ url.authority = none ∧ (∀ c ∈ text.toList.head?, c ≠ '/') ∧
      ∀ c ∈ text.toList, ¬Percent.inControls c ∧ ¬endsPath c := by
  have layout := normal.layout
  rw [rootless] at layout
  generalize schemeKind url.scheme = kind at layout ⊢
  generalize url.authority = authority at layout ⊢
  generalize path : Location.rootless text = location at layout
  cases layout with
  | file => cases path
  | authority => cases path
  | bare => cases path
  | rootless front each =>
    cases path
    rw [String.toList_ofList]
    exact ⟨rfl, rfl, front, each⟩

theorem withRootless (normal : url.IsNormal) {before : String} (was : url.path = .rootless before)
    (text : List Char) (front : ∀ c ∈ text.head?, c ≠ '/')
    (each : ∀ c ∈ text, ¬Percent.inControls c ∧ ¬endsPath c)
    (closed : ∀ c ∈ text.getLast?, ¬isOuterBlank c) :
    IsNormal { url with path := .rootless (String.ofList text) } where
  scheme := normal.scheme
  layout := by
    obtain ⟨kind, authority, -⟩ := normal.rootless_spec was
    dsimp only
    rw [kind, authority]
    exact .rootless front each
  query := normal.query
  fragment := normal.fragment
  closed _ _ := by rwa [Location.text, String.toList_ofList]

end IsNormal

/-! ## A slash behind a path without structure -/

theorem withPath_slash_of_rootless {url : Url} (normal : url.IsNormal) {text : String}
    (rootless : url.path = .rootless text) (filled : text ≠ "") :
    url.withPath (url.path.text ++ "/") =
      { url with path := .rootless (String.ofList (text.toList ++ ['/'])) } := by
  obtain ⟨-, -, front, each⟩ := normal.rootless_spec rootless
  have kept : Percent.encode Percent.inControls (text.toList ++ ['/']) = text.toList ++ ['/'] := by
    refine Percent.encode_eq_self fun c member => ?_
    rcases List.mem_append.1 member with own | last
    · exact (each c own).1
    · rw [List.mem_singleton.1 last]
      decide
  have spelled : (url.path.text ++ "/").toList = text.toList ++ ['/'] := by
    rw [String.toList_append, rootless]
    rfl
  unfold withPath
  rw [rootless] at spelled ⊢
  dsimp only
  rw [spelled]
  split
  next rest same =>
    -- A path that is there does not begin with a slash, so none is encoded.
    obtain ⟨c, more, chars⟩ : ∃ c more, text.toList = c :: more :=
      List.exists_cons_of_ne_nil (by simpa using filled)
    rw [chars] at same front
    cases same
    exact absurd rfl (front '/' rfl)
  next => rw [kept]

/-- The slash is encoded where it would be the first character. -/
theorem withPath_slash_of_empty {url : Url} (rootless : url.path = .rootless "") :
    url.withPath (url.path.text ++ "/") = { url with path := .rootless "%2F" } := by
  unfold withPath
  rw [rootless]
  rfl

theorem IsNormal.withPath_slash {url : Url} (normal : url.IsNormal) :
    (url.withPath (url.path.text ++ "/")).IsNormal := by
  cases path : url.path with
  | segments names => exact normal.withPath_segments path _
  | rootless text =>
    obtain ⟨-, -, front, each⟩ := normal.rootless_spec path
    rw [← path]
    by_cases filled : text = ""
    · subst filled
      rw [withPath_slash_of_empty path]
      refine normal.withRootless path ['%', '2', 'F'] ?_ (List.all_iff_forall_prop.1 (by decide)) ?_
      · rintro _ ⟨⟩
        decide
      · rintro _ ⟨⟩
        decide
    · rw [withPath_slash_of_rootless normal path filled]
      refine normal.withRootless path _ ?_ (fun c member => ?_) ?_
      · rwa [List.head?_append_of_ne_nil _ (by simpa using filled)]
      · rcases List.mem_append.1 member with own | last
        · exact each c own
        · rw [List.mem_singleton.1 last]
          decide
      · rw [List.getLast?_concat]
        rintro _ ⟨⟩
        decide

theorem withPath_spec (url : Url) (path : String) : (url.withPath path).authority = url.authority ∧
    (url.withPath path).query = url.query ∧ (url.withPath path).fragment = url.fragment := by
  unfold withPath
  dsimp only
  split
  next =>
    split
    next => exact ⟨rfl, rfl, rfl⟩
    next => exact ⟨rfl, rfl, rfl⟩
  next => exact ⟨rfl, rfl, rfl⟩

end Url

namespace Source

/-! ## The directory of a source -/

variable {text : String} {source : Source} {url : Url}

theorem exists_parse (spelled : Url.parse text = .ok url) :
    ∃ source, parse text = .ok source := by
  unfold parse
  rw [spelled]
  dsimp only
  split
  next => exact ⟨_, rfl⟩
  next => exact ⟨_, rfl⟩

theorem base_cases (read : parse text = .ok source) (spelled : Url.parse text = .ok url) :
    url.path.text.endsWith "/" ∧ source.base = url ∨
      ¬url.path.text.endsWith "/" ∧ source.base = url.withPath (url.path.text ++ "/") := by
  obtain ⟨found, same, made⟩ := parse_eq_ok read
  rw [spelled] at same
  cases same
  exact made

theorem isNormal_base (read : parse text = .ok source) : source.base.IsNormal := by
  obtain ⟨url, spelled, made⟩ := parse_eq_ok read
  have normal := Url.isNormal_of_parse spelled
  rcases made with ⟨-, same⟩ | ⟨-, same⟩
  · exact same ▸ normal
  · exact same ▸ normal.withPath_slash

/-- What the path of the source leaves alone. -/
theorem base_spec (read : parse text = .ok source) (spelled : Url.parse text = .ok url) :
    source.base.authority = url.authority ∧ source.base.query = url.query ∧
      source.base.fragment = url.fragment := by
  rcases base_cases read spelled with ⟨-, same⟩ | ⟨-, same⟩
  · exact same ▸ ⟨rfl, rfl, rfl⟩
  · exact same ▸ url.withPath_spec _

theorem base_of_empty (read : parse text = .ok source) (spelled : Url.parse text = .ok url)
    (empty : url.path = .rootless "") : source.base = { url with path := .rootless "%2F" } := by
  rw [← Url.withPath_slash_of_empty empty]
  rcases base_cases read spelled with ⟨ends, -⟩ | ⟨-, same⟩
  · rw [empty, Url.Location.text, Url.endsWith_slash] at ends
    exact absurd ends (by decide)
  · exact same

theorem endsWith_base (read : parse text = .ok source) (spelled : Url.parse text = .ok url) :
    source.base.path.text.endsWith "/" ↔ url.path ≠ .rootless "" := by
  refine ⟨fun ends empty => ?_, fun filled => ?_⟩
  · rw [base_of_empty read spelled empty, Url.Location.text, Url.endsWith_slash] at ends
    exact absurd ends (by decide)
  have made := base_cases read spelled
  have isPath := Url.isPath_of_parse spelled
  generalize located : url.path = path at isPath
  cases isPath with
  | segments are => exact (hierarchical_of_parse located are made).slash
  | rootless text =>
    rcases made with ⟨ends, same⟩ | ⟨-, same⟩
    · rwa [same]
    · have some : text ≠ "" := fun none => filled (located.trans (congrArg _ none))
      rw [same, Url.withPath_slash_of_rootless (Url.isNormal_of_parse spelled) located some,
        Url.Location.text, Url.endsWith_slash, String.toList_ofList]
      exact List.suffix_append _ _

theorem base_ne_empty (read : parse text = .ok source) : source.base.path ≠ .rootless "" := by
  intro none
  obtain ⟨url, spelled, -⟩ := parse_eq_ok read
  by_cases empty : url.path = .rootless ""
  · rw [base_of_empty read spelled empty] at none
    exact absurd (Url.Location.rootless.inj none) (by decide)
  · have ends := (endsWith_base read spelled).2 empty
    rw [none, Url.Location.text, Url.endsWith_slash] at ends
    exact absurd ends (by decide)

/-! ## Reading it again -/

/-- The source of a text keeps query and fragment. Its path ends in a slash, and the text of the
directory is read as the source: not where nothing stands behind the scheme, whose slash is encoded,
and not where the path of a file on a host begins with a drive letter. -/
theorem parse_base (read : parse text = .ok source) :
    ∃ url, Url.parse text = .ok url ∧
      source.base.query = url.query ∧ source.base.fragment = url.fragment ∧
      (source.base.path.text.endsWith "/" ↔ url.path ≠ .rootless "") ∧
      ∃ again, parse source.base.text = .ok again ∧
        (again = source ↔ url.path ≠ .rootless "" ∧ ¬source.base.hidesHost) := by
  obtain ⟨url, spelled, -⟩ := parse_eq_ok read
  obtain ⟨-, query, fragment⟩ := base_spec read spelled
  have slash := endsWith_base read spelled
  refine ⟨url, spelled, query, fragment, slash, ?_⟩
  obtain ⟨found, parsed, same, other⟩ := Url.parse_text_cases (isNormal_base read)
  obtain ⟨again, reread⟩ := exists_parse parsed
  refine ⟨again, reread, fun equal => ?_, fun ⟨filled, shown⟩ => ?_⟩
  · have shown : ¬source.base.hidesHost := by
      intro hides
      refine other hides ?_
      rw [← (base_spec reread parsed).1, equal]
    -- A source that is read as itself ends in a slash, since its path is not empty.
    have ends := (endsWith_base reread parsed).2 (same shown ▸ base_ne_empty read)
    exact ⟨slash.1 (equal ▸ ends), shown⟩
  · have ends := slash.2 filled
    rw [← same shown] at ends
    rcases base_cases reread parsed with ⟨-, kept⟩ | ⟨missing, -⟩
    · exact congrArg Source.mk (kept.trans (same shown))
    · exact absurd ends missing

/-- A drive letter behind a host: the slash is there, and the host is lost in the text. -/
theorem parse_base_of_drive :
    let source : Source :=
      ⟨⟨"file", some (.ofHost (.domain "h")), .segments ["C:", ""], some "q", none⟩⟩
    parse "file://h//C:?q" = .ok source ∧ source.base.hidesHost ∧
      ∃ again, parse source.base.text = .ok again ∧ again ≠ source := by
  intro source
  have read : parse "file://h//C:?q" = .ok source := by decide +kernel
  have hides : source.base.hidesHost := by decide +kernel
  obtain ⟨url, -, -, -, -, again, reread, same⟩ := parse_base read
  exact ⟨read, hides, again, reread, fun equal => (same.1 equal).2 hides⟩

/-- The encoded slash of an empty path is no end of a directory, and gets a slash of its own. -/
theorem base_unstable :
    let source : Source := ⟨⟨"x", none, .rootless "%2F", none, none⟩⟩
    let again : Source := ⟨⟨"x", none, .rootless "%2F/", none, none⟩⟩
    parse "x:" = .ok source ∧ ¬source.base.path.text.endsWith "/" ∧
      parse source.base.text = .ok again ∧ again ≠ source := by
  intro source again
  refine ⟨by decide +kernel, ?_, by decide +kernel, by decide⟩
  rw [Url.endsWith_slash]
  decide

end Source

end VectorFetch

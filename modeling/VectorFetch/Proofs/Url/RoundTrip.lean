import VectorFetch.Proofs.Url.Normal

/-!
# URLs that are read again

* `text_toList`: the text of a URL, part by part.
* `Path.segments_slash`, `Path.segments_dot`: paths without an authority before them.
* `IsNormal.clean_text`: all characters of the text of a URL count.
* `hidesHost`: the one case in which the text of a URL stands for another URL.
* `parse_text`: in every other case the text of a URL is read as the URL.
-/

namespace VectorFetch.Url

/-! ## The text of a URL -/

/-- What stands between the colon behind the scheme and the path. -/
def frontChars (authority : Option Authority) (path : Location) : List Char :=
  match authority with
  | some a => '/' :: '/' :: a.text.toList
  | none =>
    match path with
    | .segments ("" :: _ :: _) => ['/', '.']
    | _ => []

/-- What stands behind the path. -/
def tailChars (query fragment : Option String) : List Char :=
  (query.elim [] fun q => '?' :: q.toList) ++ fragment.elim [] fun f => '#' :: f.toList

theorem text_toList (url : Url) : url.text.toList =
    url.scheme.toList ++ ':' :: (frontChars url.authority url.path ++
      (url.path.text.toList ++ tailChars url.query url.fragment)) := by
  have origin : url.origin.toList =
      url.scheme.toList ++ ':' :: frontChars url.authority url.path := by
    obtain ⟨scheme, authority, path, query, fragment⟩ := url
    cases authority with
    | some a => simp [Url.origin, frontChars, String.toList_append]
    | none =>
      simp only [Url.origin, frontChars]
      split <;> simp [String.toList_append]
  have query : url.queryText.toList = url.query.elim [] fun q => '?' :: q.toList := by
    unfold queryText
    cases url.query <;> simp [String.toList_append]
  have fragment : url.fragmentText.toList = url.fragment.elim [] fun f => '#' :: f.toList := by
    unfold fragmentText
    cases url.fragment <;> simp [String.toList_append]
  simp [Url.text, stem, String.toList_append, origin, query, fragment, tailChars]

/-! ## Schemes -/

theorem splitScheme_append {s : List Char} (scheme : IsScheme s) (rest : List Char) :
    splitScheme (s ++ ':' :: rest) = some (s, rest) := by
  have each : ∀ c ∈ s, isSchemeChar c := fun c member => (scheme.each c member).1
  obtain ⟨front, behind⟩ := span_append (':' :: rest) each (by rintro _ ⟨⟩; decide)
  have small : s.map Domain.lower = s :=
    (List.map_congr_left fun c member => (scheme.each c member).2).trans (List.map_id' s)
  obtain ⟨c, more, rfl, letter⟩ := scheme.first
  rw [List.cons_append] at front behind
  rw [List.cons_append, splitScheme, if_pos letter, front, behind, small]
  rfl

/-! ## Query and fragment -/

theorem splitTail_append {path : List Char} (plain : ∀ c ∈ path, ¬endsPath c)
    {query fragment : Option String} (single : ∀ q, query = some q → '#' ∉ q.toList) :
    splitTail (path ++ tailChars query fragment) =
      (path, query.map String.toList, fragment.map String.toList) := by
  have inside : ∀ c ∈ path, !endsPath c := by simpa using plain
  have ends : ∀ c ∈ (tailChars query fragment).head?, ¬(!endsPath c) := by
    cases query <;> cases fragment <;> simp [tailChars, endsPath]
  obtain ⟨front, behind⟩ := span_append (tailChars query fragment) inside ends
  unfold splitTail
  dsimp only
  rw [front, behind]
  cases query with
  | none =>
    cases fragment with
    | none => rfl
    | some f => rfl
  | some q =>
    have whole : ∀ c ∈ q.toList, decide (c ≠ '#') :=
      fun c member => decide_eq_true fun same => single q rfl (same ▸ member)
    cases fragment with
    | none =>
      have unclosed : ∀ c ∈ ([] : List Char).head?, ¬decide (c ≠ '#') := by simp
      obtain ⟨own, none⟩ := span_append [] whole unclosed
      rw [List.append_nil] at own none
      simp only [tailChars, Option.elim_some, Option.elim_none, List.append_nil]
      rw [own, none]
      rfl
    | some f =>
      -- The query ends at the first number sign, and it has none itself.
      obtain ⟨own, more⟩ := span_append ('#' :: f.toList) whole (by rintro _ ⟨⟩; decide)
      simp only [tailChars, Option.elim_some, List.cons_append]
      rw [own, more]
      rfl

/-! ## Characters that count -/

theorem clean_eq {s : String} (first : ∀ c ∈ s.toList.head?, ¬isOuterBlank c)
    (last : ∀ c ∈ s.toList.getLast?, ¬isOuterBlank c) (each : ∀ c ∈ s.toList, ¬isSkipped c) :
    clean s = s.toList := by
  rw [clean, Text.trim_eq_self first last]
  exact List.filter_eq_self.2 (by simpa using each)

/-! ## Paths -/

namespace Path

variable {special file : Bool}

/-- Whether a path begins with a drive letter. -/
def beginsWithDrive (names : List (List Char)) : Bool := names.head?.any isDrive

theorem respelled_eq_self {names : List (List Char)} (plain : ¬(file && beginsWithDrive names)) :
    respelled file names = names := by
  cases names with
  | nil => rfl
  | cons first rest =>
    have other : ¬(file && isDrive first) := by simpa [beginsWithDrive] using plain
    rw [respelled, startSegment, if_neg other]

namespace Walk

theorem drive_run_of_ne_nil {names : List (List Char)} {w : Walk}
    (each : ∀ s ∈ names, IsSegment special s) (file : Bool) (started : w.done ≠ []) :
    (w.run file names).drive = w.drive := by
  induction names generalizing w with
  | nil => rfl
  | cons s names ih =>
    rw [List.forall_mem_cons] at each
    have later : w.add file s = { w with done := s :: w.done } :=
      if_neg (by simp [started])
    rw [run_cons each.1, ih each.2 (by simp [later]), later]

/-- Only the first segment can be a drive letter. -/
theorem drive_run_start {names : List (List Char)} (each : ∀ s ∈ names, IsSegment special s)
    (file : Bool) : (run file ⟨[], false⟩ names).drive = (file && beginsWithDrive names) := by
  cases names with
  | nil => simp [run, beginsWithDrive]
  | cons first rest =>
    rw [List.forall_mem_cons] at each
    have added : (add file ⟨[], false⟩ first).done ≠ [] ∧
        (add file ⟨[], false⟩ first).drive = (file && isDrive first) := by
      unfold add
      cases drive : file && isDrive first <;> simp [drive]
    rw [run_cons each.1, drive_run_of_ne_nil each.2 file added.1, added.2]
    rfl

end Walk

theorem map_encode {names : List (List Char)} (each : ∀ s ∈ names, IsSegment special s) :
    names.map (Percent.encode Percent.inPath) = names := by
  rw [List.map_congr_left fun s member => Percent.encode_eq_self (each s member).encoded]
  exact List.map_id' names

theorem drive_segments_text {first : List Char} {rest : List (List Char)}
    (are : AreSegments special file (first :: rest)) :
    (segments special file [] (first ++ text rest)).2 = (file && isDrive first) := by
  unfold segments
  dsimp only
  rw [split_text are.each, map_encode are.each, Walk.drive_run_start are.each]
  rfl

/-- The path of a file without a host is read from its first slash on, which keeps a drive letter
as it is. -/
theorem segments_slash {names : List (List Char)} (filled : names ≠ [])
    (are : AreSegments true true names) : segments true true [] (text names) = (names, false) := by
  have each : ∀ s ∈ [] :: names, IsSegment true s := List.forall_mem_cons.2 ⟨isSegment_nil, are.each⟩
  have cut : split true (text names) = [] :: names := split_text each
  have done : (Walk.run true ⟨[], false⟩ ([] :: names)).done.reverse = [] :: names := by
    rw [Walk.done_run_start each, List.reverse_reverse]
    exact respelled_eq_self (by simp [beginsWithDrive, isDrive])
  have drive : (Walk.run true ⟨[], false⟩ ([] :: names)).drive = false := by
    rw [Walk.drive_run_start each]
    rfl
  obtain ⟨first, rest, rfl⟩ := List.exists_cons_of_ne_nil filled
  have trimmed : trimStart ([] :: first :: rest) = first :: rest :=
    trimStart_eq_self (are.trimmed rfl)
  unfold segments
  dsimp only
  rw [cut, map_encode each, done, drive, if_pos rfl, trimmed]

/-- A dot in front of a path is left out. -/
theorem segments_dot {names : List (List Char)} (filled : names ≠ [])
    (each : ∀ s ∈ names, IsSegment false s) :
    (segments false false [] ('.' :: text names)).1 = names := by
  obtain ⟨first, rest, rfl⟩ := List.exists_cons_of_ne_nil filled
  have cut : split false ('.' :: text (first :: rest)) = ['.'] :: first :: rest := by
    have slash : '.' :: text (first :: rest) = ['.'] ++ '/' :: (first ++ text rest) := rfl
    rw [slash, split, List.splitOnP_append_cons_of_forall_mem (by simp) '/' rfl]
    exact congrArg (['.'] :: ·) (split_text each)
  have dot : Percent.encode Percent.inPath ['.'] = ['.'] := by decide
  have passed : Walk.run false ⟨[], false⟩ (['.'] :: first :: rest) =
      Walk.run false ⟨[], false⟩ (first :: rest) := rfl
  unfold segments
  dsimp only
  rw [cut, List.map_cons, map_encode each, dot, passed, Walk.done_run_start each,
    List.reverse_reverse, if_neg Bool.false_ne_true]
  exact respelled_eq_self (by simp)

end Path

/-! ## Characters of the text -/

/-- What stands in a path ends neither the path nor the URL. -/
theorem IsLayout.mem_path {kind : SchemeKind} {authority : Option Authority} {path : Location}
    (layout : IsLayout kind authority path) {c : Char} (member : c ∈ path.text.toList) :
    ¬endsPath c ∧ ¬isSkipped c := by
  have segments : ∀ {special names}, (∀ s ∈ names, Path.IsSegment special s) →
      c ∈ (Location.ofSegments names).text.toList → ¬endsPath c ∧ ¬isSkipped c := by
    intro special names each member
    rw [text_ofSegments] at member
    rcases mem_pathText each member with rfl | encoded
    · decide
    · simp only [Percent.inPath, Percent.inFragment, Bool.or_eq_true, not_or] at encoded
      refine ⟨fun ends => ?_, not_skipped_of_inControls encoded.1.1⟩
      simp only [endsPath, Bool.or_eq_true, decide_eq_true_eq] at ends
      rcases ends with rfl | rfl
      · exact encoded.2 (by decide)
      · exact encoded.2 (by decide)
  cases layout with
  | file stands filled are => exact segments are.each member
  | authority notFile stands filled are => exact segments are.each member
  | bare filled are => exact segments are.each member
  | rootless front each =>
    rw [Location.text, String.toList_ofList] at member
    obtain ⟨visible, inside⟩ := each c member
    exact ⟨inside, not_skipped_of_inControls visible⟩

theorem text_ofHost (host : Host) : (Authority.ofHost host).text.toList = host.text.toList := by
  simp [Authority.ofHost, Authority.text, Authority.credentials, Authority.portText]

theorem stands_ofHost {host : Host} (stands : host.Stands true) :
    (Authority.ofHost host).Stands .file where
  toIsSound := Authority.isSound_ofHost host
  host := stands
  notDefault there := absurd rfl there
  bare empty := by
    have nothing : host.text.toList = [] := by rw [show host = .empty from empty]; rfl
    exact absurd nothing (stands.filled (.inl rfl))

theorem IsLayout.mem_front {kind : SchemeKind} {authority : Option Authority} {path : Location}
    (layout : IsLayout kind authority path) {c : Char} (member : c ∈ frontChars authority path) :
    ¬isOuterBlank c := by
  have slashes : ∀ {kind} {a : Authority}, a.Stands kind → c ∈ '/' :: '/' :: a.text.toList →
      ¬isOuterBlank c := by
    intro kind a stands member
    rw [List.mem_cons, List.mem_cons] at member
    rcases member with rfl | rfl | own
    · decide
    · decide
    · exact stands.not_blank_of_mem_text own
  -- Without an authority there may be a dot before the path.
  have dots : c ∈ ['/', '.'] → ¬isOuterBlank c := by
    have each : ∀ c ∈ ['/', '.'], ¬isOuterBlank c := List.all_iff_forall_prop.1 (by decide)
    exact each c
  cases layout with
  | file stands filled are =>
    rcases stands with rfl | ⟨stands, -⟩
    · have each : ∀ c ∈ ['/', '/'], ¬isOuterBlank c := List.all_iff_forall_prop.1 (by decide)
      exact each c member
    · exact slashes (stands_ofHost stands) member
  | authority notFile stands filled are => exact slashes stands member
  | bare filled are =>
    unfold frontChars at member
    dsimp only at member
    split at member
    next => exact dots member
    next => cases member
  | rootless front each => cases member

theorem not_blank_of_schemeChar {c : Char} (member : isSchemeChar c) : ¬isOuterBlank c := by
  have blanks : ∀ n ≤ 0x20, ¬isSchemeChar (Char.ofNat n) := by decide
  intro blank
  exact blanks c.toNat (of_decide_eq_true blank) ((Char.ofNat_toNat c).symm ▸ member)

theorem getLast?_append_cases {a b : List Char} {c : Char} (last : c ∈ (a ++ b).getLast?) :
    c ∈ b.getLast? ∨ b = [] ∧ c ∈ a.getLast? := by
  cases b with
  | nil => exact .inr ⟨rfl, by simpa using last⟩
  | cons d b =>
    rw [List.getLast?_append_of_ne_nil _ (List.cons_ne_nil d b)] at last
    exact .inl last

theorem eq_none_of_tailChars {query fragment : Option String}
    (nothing : tailChars query fragment = []) : query = none ∧ fragment = none := by
  cases query with
  | none =>
    cases fragment with
    | none => exact ⟨rfl, rfl⟩
    | some f => cases nothing
  | some q => cases nothing

namespace IsNormal

variable {url : Url}

theorem mem_tail (normal : url.IsNormal) {c : Char}
    (member : c ∈ tailChars url.query url.fragment) : ¬isOuterBlank c := by
  rcases List.mem_append.1 member with query | fragment
  · cases q : url.query with
    | none =>
      rw [q] at query
      cases query
    | some text =>
      rw [q] at query
      rcases List.mem_cons.1 query with rfl | own
      · decide
      · have encoded := normal.query text q c own
        simp only [Percent.inQuery, Bool.or_eq_true, not_or] at encoded
        refine not_blank encoded.1.1 ?_
        rintro rfl
        exact encoded.1.2 (by decide)
  · cases f : url.fragment with
    | none =>
      rw [f] at fragment
      cases fragment
    | some text =>
      rw [f] at fragment
      rcases List.mem_cons.1 fragment with rfl | own
      · decide
      · have encoded := normal.fragment text f c own
        simp only [Percent.inFragment, Bool.or_eq_true, not_or] at encoded
        refine not_blank encoded.1 ?_
        rintro rfl
        exact encoded.2 (by decide)

/-- All characters of the text of a URL count. -/
theorem clean_text (normal : url.IsNormal) : clean url.text = url.text.toList := by
  refine clean_eq ?_ ?_ ?_
  · obtain ⟨c, rest, scheme, -⟩ := normal.scheme.first
    rw [text_toList, scheme]
    rintro _ ⟨⟩
    exact not_blank_of_schemeChar (normal.scheme.each c (scheme ▸ List.mem_cons_self)).1
  · -- The last character is one of the last part that is there.
    intro c last
    rw [text_toList, ← List.append_assoc, ← List.cons_append, ← List.append_assoc,
      ← List.cons_append, ← List.append_assoc] at last
    rcases getLast?_append_cases last with tail | ⟨nothing, last⟩
    · exact normal.mem_tail (List.mem_of_getLast? tail)
    rcases getLast?_append_cases last with path | ⟨-, last⟩
    · obtain ⟨query, fragment⟩ := eq_none_of_tailChars nothing
      exact normal.closed query fragment c path
    rcases List.mem_append.1 (List.mem_of_getLast? last) with scheme | front
    · exact not_blank_of_schemeChar (normal.scheme.each c scheme).1
    rcases List.mem_cons.1 front with rfl | front
    · decide
    · exact normal.layout.mem_front front
  · intro c member
    rw [text_toList, List.mem_append, List.mem_cons, List.mem_append, List.mem_append] at member
    rcases member with scheme | rfl | front | path | tail
    · exact not_skipped_of_blank (not_blank_of_schemeChar (normal.scheme.each c scheme).1)
    · decide
    · exact not_skipped_of_blank (normal.layout.mem_front front)
    · exact (normal.layout.mem_path path).2
    · exact not_skipped_of_blank (normal.mem_tail tail)

theorem assemble_eq (normal : url.IsNormal) (authority : Option Authority) (path : Location) :
    assemble (schemeKind url.scheme) url.scheme.toList authority path
      (url.query.map String.toList) (url.fragment.map String.toList) =
        { url with authority, path } := by
  have same : ∀ {set : Char → Bool} {part : Option String},
      (∀ s, part = some s → ∀ c ∈ s.toList, ¬set c) →
      (part.map String.toList).map (fun s => String.ofList (Percent.encode set s)) = part := by
    intro set part each
    cases part with
    | none => rfl
    | some s =>
      rw [Option.map_some, Option.map_some, Percent.encode_eq_self (each s rfl), String.ofList_toList]
  rw [assemble, String.ofList_toList, same normal.query, same normal.fragment]

end IsNormal

/-! ## Reading -/

/-- Whether the path of a file on a host begins with a drive letter. When the text is read the host
is lost. -/
def hidesHost (url : Url) : Bool :=
  url.scheme = "file" && url.authority.any (fun a => a.host ≠ .empty) &&
    match url.path with
    | .segments (first :: _) => Path.isDrive first.toList
    | _ => false

theorem hidesHost_file {host : Host} {names : List (List Char)} {query fragment : Option String} :
    hidesHost ⟨"file", some (.ofHost host), .ofSegments names, query, fragment⟩ ↔
      host ≠ .empty ∧ Path.beginsWithDrive names := by
  cases names with
  | nil => simp [hidesHost, Location.ofSegments, Path.beginsWithDrive]
  | cons first rest => simp [hidesHost, Location.ofSegments, Path.beginsWithDrive, Authority.ofHost]

/-- No slash belongs to an authority. -/
theorem Authority.Stands.dropWhile_slashes {kind : SchemeKind} {a : Authority}
    (stands : a.Stands kind) (special : kind.isSpecial) (behind : List Char) :
    ('/' :: '/' :: a.text.toList ++ behind).dropWhile (fun c => c = '/' || c = '\\') =
      a.text.toList ++ behind := by
  have filled : a.text.toList ≠ [] := by
    rw [text_toList]
    simp [stands.host.filled (.inl special)]
  obtain ⟨c, rest, spelled⟩ := List.exists_cons_of_ne_nil filled
  have inside := stands.not_ends_of_mem_text (spelled ▸ List.mem_cons_self : c ∈ a.text.toList) true
  have other : ¬(c = '/' || c = '\\') := by
    intro slash
    refine inside ?_
    simp only [Bool.or_eq_true, decide_eq_true_eq] at slash
    rcases slash with rfl | rfl <;> decide
  have slashes : ∀ rest : List Char, ('/' :: '/' :: rest).dropWhile (fun c => c = '/' || c = '\\') =
      rest.dropWhile fun c => c = '/' || c = '\\' := fun rest => rfl
  rw [List.cons_append, List.cons_append, slashes, spelled]
  exact List.dropWhile_cons_of_neg other

theorem schemeKind_eq_file {scheme : String} (file : schemeKind scheme = .file) :
    scheme = "file" := by
  unfold schemeKind at file
  split at file <;> first | rfl | cases file

theorem head?_behind (names : List (List Char)) (query fragment : Option String) :
    ∀ c ∈ (Path.text names ++ tailChars query fragment).head?, endsAuthority false c := by
  intro c first
  cases names with
  | nil =>
    cases query with
    | none =>
      cases fragment with
      | none => cases first
      | some f =>
        cases first
        rfl
    | some q =>
      cases first
      rfl
  | cons name names =>
    cases first
    rfl

section

variable {kind : SchemeKind} {names : List (List Char)} {query fragment : Option String}

theorem parseBehindSlashes_append (notFile : kind.isFile = false) {a : Authority}
    (stands : a.Stands kind) (filled : kind.isSpecial → names ≠ [])
    (are : Path.AreSegments kind.isSpecial kind.isFile names)
    (inside : ∀ c ∈ Path.text names, ¬endsPath c)
    (single : ∀ q, query = some q → '#' ∉ q.toList) (scheme : List Char) :
    parseBehindSlashes kind scheme
        (a.text.toList ++ (Path.text names ++ tailChars query fragment)) =
      .ok (assemble kind scheme (some a) (.ofSegments names) (query.map String.toList)
        (fragment.map String.toList)) := by
  have again : (if (Path.text names).isEmpty && !kind.isSpecial then []
      else (readSegments kind (Path.text names)).1) = names := by
    cases names with
    | nil =>
      have other : kind.isSpecial = false := Bool.eq_false_iff.2 fun special => filled special rfl
      simp [Path.text, other]
    | cons first rest =>
      rw [if_neg (by simp [Path.text]), readSegments_text (List.cons_ne_nil _ _) are]
      exact Path.respelled_eq_self (by simp [notFile])
  unfold parseBehindSlashes
  rw [stands.readAuthority_append (head?_behind names query fragment)]
  dsimp only
  rw [splitTail_append inside single]
  dsimp only
  rw [again]

theorem readSegments_text_file (filled : names ≠ []) (are : Path.AreSegments true true names) :
    readSegments .file (Path.text names) = (Path.respelled true names, Path.beginsWithDrive names) := by
  refine Prod.ext (readSegments_text filled are) ?_
  obtain ⟨first, rest, rfl⟩ := List.exists_cons_of_ne_nil filled
  have slash : Path.text (first :: rest) = '/' :: (first ++ Path.text rest) := rfl
  rw [slash, readSegments, if_pos (by simp)]
  exact Path.drive_segments_text are

theorem readFileHost_append {host : Host}
    (stands : host = .empty ∨ host.Stands true ∧ host ≠ .domain "localhost") {behind : List Char}
    (ends : ∀ c ∈ behind.head?, endsAuthority false c) :
    readFileHost (host.text.toList ++ behind) = .ok (host, behind) := by
  have stops : ∀ c ∈ behind.head?, ¬(!endsAuthority true c) := by
    simpa using fun c first => endsAuthority_of_slash (ends c first) true
  unfold readFileHost
  dsimp only
  rcases stands with rfl | ⟨stands, named⟩
  · have nothing : ([] ++ behind).takeWhile (fun c => !endsAuthority true c) = [] :=
      (span_append behind (List.forall_mem_nil _) stops).1
    have empty : Host.empty.text.toList = [] := rfl
    rw [empty, nothing]
    rfl
  · have inside : ∀ c ∈ host.text.toList, !endsAuthority true c := by
      intro c member
      rw [Bool.not_eq_true', ← Bool.not_eq_true]
      exact (stands_ofHost stands).not_ends_of_mem_text ((text_ofHost host).symm ▸ member) true
    obtain ⟨front, rest⟩ := span_append behind inside stops
    have filled := stands.filled (.inl rfl)
    have again : Host.parse host.text.toList = .ok host := stands.again
    rw [front, rest, if_neg (by simp [filled, stands.written.not_drive]), again]
    dsimp only
    rw [if_neg named]

/-- A drive letter takes the place of a host. -/
theorem parseFile_append {host : Host}
    (stands : host = .empty ∨ host.Stands true ∧ host ≠ .domain "localhost") (filled : names ≠ [])
    (are : Path.AreSegments true true names) (inside : ∀ c ∈ Path.text names, ¬endsPath c)
    (single : ∀ q, query = some q → '#' ∉ q.toList) :
    parseFile ('/' :: '/' :: (host.text.toList ++ (Path.text names ++ tailChars query fragment))) =
      .ok (assemble .file "file".toList
        (some (.ofHost (if Path.beginsWithDrive names then .empty else host)))
        (.ofSegments (if host = .empty then names else Path.respelled true names))
        (query.map String.toList) (fragment.map String.toList)) := by
  unfold parseFile
  dsimp only
  rw [if_pos (by decide), readFileHost_append stands (head?_behind names query fragment)]
  dsimp only
  rw [splitTail_append inside single]
  dsimp only
  by_cases empty : host = .empty
  · rw [if_pos empty, Path.segments_slash filled are, if_pos empty, empty, ite_self, ite_self]
  · rw [if_neg empty, if_neg empty, readSegments_text_file filled are]

end

theorem head?_append_tailChars {path : List Char} (other : ∀ c ∈ path.head?, c ≠ '/')
    (query fragment : Option String) : ∀ c ∈ (path ++ tailChars query fragment).head?, c ≠ '/' := by
  cases path with
  | nil => cases query <;> cases fragment <;> simp [tailChars]
  | cons c path => exact other

/-- Without an authority a path is written so that it is not read as one. -/
theorem bare_cases {names : List (List Char)} (filled : names ≠ [])
    (are : Path.AreSegments false false names) :
    ∃ rest, frontChars none (.ofSegments names) ++ Path.text names = '/' :: rest ∧
      (∀ c ∈ rest.head?, c ≠ '/') ∧ (∀ c ∈ '/' :: rest, ¬endsPath c) ∧
      (readSegments .other ('/' :: rest)).1 = names := by
  have inside : ∀ c ∈ Path.text names, ¬endsPath c := by
    intro c member
    rw [← text_ofSegments] at member
    exact ((IsLayout.bare filled are).mem_path member).1
  obtain ⟨first, more, rfl⟩ := List.exists_cons_of_ne_nil filled
  -- Behind an empty first segment the text would go on with two slashes.
  by_cases doubled : first = [] ∧ more ≠ []
  · obtain ⟨rfl, more'⟩ := doubled
    obtain ⟨second, more, rfl⟩ := List.exists_cons_of_ne_nil more'
    refine ⟨'.' :: Path.text ([] :: second :: more), rfl, by rintro _ ⟨⟩; decide, ?_,
      Path.segments_dot filled are.each⟩
    rw [List.forall_mem_cons, List.forall_mem_cons]
    exact ⟨by decide, by decide, inside⟩
  · have front : frontChars none (.ofSegments (first :: more)) = [] := by
      unfold frontChars
      dsimp only
      split
      next same =>
        obtain ⟨empty, next⟩ := List.cons.inj (Location.segments.inj same)
        refine absurd ⟨String.ofList_eq_empty_iff.1 empty, ?_⟩ doubled
        rintro rfl
        cases next
      next => rfl
    refine ⟨first ++ Path.text more, by rw [front]; rfl, ?_, inside, ?_⟩
    · intro c head
      cases first with
      | nil =>
        have last : more = [] := by simpa using doubled
        rw [last] at head
        cases head
      | cons d first =>
        cases head
        rintro rfl
        exact (are.each _ List.mem_cons_self).single '/' List.mem_cons_self rfl
    · have again : (readSegments .other (Path.text (first :: more))).1 = _ :=
        readSegments_text filled are
      exact again.trans (Path.respelled_eq_self (by simp [SchemeKind.isFile]))

/-! ## Whole URLs -/

theorem not_hidesHost {url : Url} (notFile : (schemeKind url.scheme).isFile = false) :
    ¬url.hidesHost := by
  intro hides
  have named : url.scheme = "file" := by
    simp only [hidesHost, Bool.and_eq_true, decide_eq_true_eq] at hides
    exact hides.1.1
  rw [named] at notFile
  exact absurd notFile (by decide)

namespace IsNormal

theorem splitScheme_text {url : Url} (normal : url.IsNormal) :
    splitScheme (clean url.text) = some (url.scheme.toList,
      frontChars url.authority url.path ++
        (url.path.text.toList ++ tailChars url.query url.fragment)) := by
  rw [normal.clean_text, text_toList, splitScheme_append normal.scheme]

theorem single_query {url : Url} (normal : url.IsNormal) :
    ∀ q, url.query = some q → '#' ∉ q.toList := by
  intro q there mark
  refine normal.query q there '#' mark ?_
  cases (schemeKind url.scheme).isSpecial <;> decide

/-! Each layout is written so that the reader takes the branch that makes it. -/

section Layouts

variable {scheme : String} {names : List (List Char)} {query fragment : Option String}

theorem parse_file {host : Host}
    (normal : IsNormal ⟨"file", some (.ofHost host), .ofSegments names, query, fragment⟩)
    (stands : host = .empty ∨ host.Stands true ∧ host ≠ .domain "localhost") (filled : names ≠ [])
    (are : Path.AreSegments true true names) :
    parse (text ⟨"file", some (.ofHost host), .ofSegments names, query, fragment⟩) =
      .ok ⟨"file", some (.ofHost (if Path.beginsWithDrive names then .empty else host)),
        .ofSegments (if host = .empty then names else Path.respelled true names),
        query, fragment⟩ := by
  have inside := fun c member => (normal.layout.mem_path (c := c) member).1
  have single := normal.single_query
  have assembled := normal.assemble_eq
  have front : frontChars (some (.ofHost host)) (.ofSegments names) =
      '/' :: '/' :: host.text.toList := by rw [frontChars, text_ofHost]
  dsimp only at inside single assembled
  rw [text_ofSegments] at inside
  unfold parse
  rw [normal.splitScheme_text]
  dsimp only
  rw [front, text_ofSegments]
  exact (parseFile_append stands filled are inside single).trans (congrArg _ (assembled ..))

theorem parse_authority {a : Authority}
    (normal : IsNormal ⟨scheme, some a, .ofSegments names, query, fragment⟩)
    (notFile : (schemeKind scheme).isFile = false) (stands : a.Stands (schemeKind scheme))
    (filled : (schemeKind scheme).isSpecial → names ≠ [])
    (are : Path.AreSegments (schemeKind scheme).isSpecial (schemeKind scheme).isFile names) :
    parse (text ⟨scheme, some a, .ofSegments names, query, fragment⟩) =
      .ok ⟨scheme, some a, .ofSegments names, query, fragment⟩ := by
  have inside := fun c member => (normal.layout.mem_path (c := c) member).1
  have single := normal.single_query
  have assembled := normal.assemble_eq
  dsimp only at inside single assembled
  rw [text_ofSegments] at inside
  unfold parse
  rw [normal.splitScheme_text]
  dsimp only
  rw [String.ofList_toList, text_ofSegments, ← assembled]
  generalize schemeKind scheme = kind at notFile stands filled are ⊢
  rw [← parseBehindSlashes_append notFile stands filled are inside single]
  cases kind with
  | file => cases notFile
  | special defaultPort =>
    exact congrArg (parseBehindSlashes (.special defaultPort) scheme.toList)
      (stands.dropWhile_slashes rfl _)
  | other => rfl

theorem parse_bare (normal : IsNormal ⟨scheme, none, .ofSegments names, query, fragment⟩)
    (other : schemeKind scheme = .other) (filled : names ≠ [])
    (are : Path.AreSegments false false names) :
    parse (text ⟨scheme, none, .ofSegments names, query, fragment⟩) =
      .ok ⟨scheme, none, .ofSegments names, query, fragment⟩ := by
  have single := normal.single_query
  have assembled := normal.assemble_eq none (.ofSegments names)
  dsimp only at single assembled
  rw [other] at assembled
  obtain ⟨rest, spelled, notSlash, ends, again⟩ := bare_cases filled are
  unfold parse
  rw [normal.splitScheme_text]
  dsimp only
  rw [String.ofList_toList, other, text_ofSegments, ← List.append_assoc, spelled, ← assembled]
  dsimp only
  rw [List.cons_append]
  split
  -- Two slashes would be read as the front of an authority.
  next same =>
    obtain ⟨-, same⟩ := List.cons.inj same
    exact absurd rfl (head?_append_tailChars notSlash query fragment '/' (same ▸ rfl))
  next =>
    rw [← List.cons_append, splitTail_append ends single]
    dsimp only
    rw [again]
    rfl

theorem parse_rootless {path : List Char}
    (normal : IsNormal ⟨scheme, none, .rootless (String.ofList path), query, fragment⟩)
    (other : schemeKind scheme = .other) (front : ∀ c ∈ path.head?, c ≠ '/')
    (each : ∀ c ∈ path, ¬Percent.inControls c ∧ ¬endsPath c) :
    parse (text ⟨scheme, none, .rootless (String.ofList path), query, fragment⟩) =
      .ok ⟨scheme, none, .rootless (String.ofList path), query, fragment⟩ := by
  have single := normal.single_query
  have assembled := normal.assemble_eq none (.rootless (String.ofList path))
  have spelled : (Location.rootless (String.ofList path)).text.toList = path := String.toList_ofList
  dsimp only at single assembled
  rw [other] at assembled
  unfold parse
  rw [normal.splitScheme_text]
  dsimp only
  rw [String.ofList_toList, other, spelled, ← assembled]
  dsimp only [frontChars]
  rw [List.nil_append]
  split
  next same =>
    exact absurd rfl (head?_append_tailChars front query fragment '/' (same ▸ rfl))
  next =>
    rw [splitTail_append (fun c member => (each c member).2) single]
    dsimp only
    split
    next => exact absurd rfl (front '/' rfl)
    next => rw [Percent.encode_eq_self fun c member => (each c member).1]

end Layouts

end IsNormal

/-- The text of a URL is read as the URL, but a drive letter takes the place of a host. -/
theorem parse_text_cases {url : Url} (normal : url.IsNormal) :
    ∃ read, parse url.text = .ok read ∧ (¬url.hidesHost → read = url) ∧
      (url.hidesHost → read.authority ≠ url.authority) := by
  have layout := normal.layout
  have shows : (schemeKind url.scheme).isFile = false → ¬url.hidesHost := not_hidesHost
  obtain ⟨scheme, authority, path, query, fragment⟩ := url
  dsimp only at layout shows
  generalize kindIs : schemeKind scheme = kind at layout shows
  cases layout with
  | @file host stands names filled are =>
    obtain rfl := schemeKind_eq_file kindIs
    refine ⟨_, normal.parse_file stands filled are, ?_, ?_⟩
    · intro shown
      by_cases empty : host = .empty
      · rw [if_pos empty, empty, ite_self]
      · have plain : ¬Path.beginsWithDrive names := fun drive =>
          shown (hidesHost_file.2 ⟨empty, drive⟩)
        rw [if_neg empty, if_neg plain, Path.respelled_eq_self (by simpa using plain)]
    · -- The host that is read is empty.
      intro hides same
      obtain ⟨filled, drive⟩ := hidesHost_file.1 hides
      rw [if_pos drive] at same
      exact filled (congrArg Authority.host (Option.some.inj same)).symm
  | authority notFile stands filled are =>
    subst kindIs
    exact ⟨_, normal.parse_authority notFile stands filled are, fun _ => rfl,
      fun hides => absurd hides (shows notFile)⟩
  | bare filled are =>
    exact ⟨_, normal.parse_bare kindIs filled are, fun _ => rfl,
      fun hides => absurd hides (shows rfl)⟩
  | rootless front each =>
    exact ⟨_, normal.parse_rootless kindIs front each, fun _ => rfl,
      fun hides => absurd hides (shows rfl)⟩

/-- The text of a URL that was read is read as the URL, unless a host is lost in it. -/
theorem parse_text {text : String} {url : Url} (read : parse text = .ok url) :
    ∃ again, parse url.text = .ok again ∧ (again = url ↔ ¬url.hidesHost) := by
  obtain ⟨again, parsed, same, other⟩ := parse_text_cases (isNormal_of_parse read)
  exact ⟨again, parsed, fun equal hides => other hides (congrArg Url.authority equal), same⟩

end VectorFetch.Url

import VectorFetch.Proofs.Text.Split
import VectorFetch.Proofs.Url

/-!
# Segments of paths that were read

* `Path.IsSegment`, `Path.AreSegments`: what the segments of a path hold however it was spelled.
* `areSegments_segments`: it is so for every path that is read.
* `Path.respelled`: the drive letter at the start of the path of a file, written with a colon.
* `readSegments_text`: a path that was read is read again as it is, but for a drive letter.
-/

namespace VectorFetch.Url

namespace Percent

theorem encode_eq_self {set : Char → Bool} {s : List Char} (encoded : ∀ c ∈ s, ¬set c) :
    encode set s = s := by
  induction s with
  | nil => rfl
  | cons c s ih =>
    rw [List.forall_mem_cons] at encoded
    have rest := ih encoded.2
    rw [encode] at rest ⊢
    rw [List.flatMap_cons, rest, encodeChar, if_neg encoded.1, List.singleton_append]

/-- What is there behind the encoding was there before it, or it is a part of an encoded byte. -/
theorem mem_of_mem_encode {set : Char → Bool} {c : Char} {s : List Char} (other : c ≠ '%')
    (notDigit : ∀ n < 16, c ≠ digit n) (member : c ∈ encode set s) : c ∈ s := by
  obtain ⟨x, there, member⟩ := List.mem_flatMap.1 member
  unfold encodeChar at member
  split at member
  next =>
    obtain ⟨b, -, member⟩ := List.mem_flatMap.1 member
    have small := b.toNat_lt
    simp only [encodeByte, List.mem_cons, List.not_mem_nil, or_false] at member
    rcases member with rfl | rfl | rfl
    · exact absurd rfl other
    · exact absurd rfl (notDigit _ (by omega))
    · exact absurd rfl (notDigit _ (by omega))
  next =>
    obtain rfl := List.mem_singleton.1 member
    exact there

end Percent

namespace Path

variable {special file : Bool}

/-- Whether a character separates segments. -/
def isSlash (special : Bool) (c : Char) : Bool := c = '/' || (special && c = '\\')

/-- A piece of a path between two slashes, with what has to be encoded encoded. -/
structure IsPiece (special : Bool) (s : List Char) : Prop where
  encoded : ∀ c ∈ s, ¬Percent.inPath c
  single : ∀ c ∈ s, ¬isSlash special c

/-- A piece that stands for itself. -/
structure IsSegment (special : Bool) (s : List Char) : Prop extends IsPiece special s where
  notHere : ¬isSingleDot s
  notAbove : ¬isDoubleDot s

theorem isSegment_nil : IsSegment special [] := ⟨⟨nofun, nofun⟩, nofun, nofun⟩

theorem isPiece_of_mem_split {s piece : List Char}
    (member : piece ∈ (split special s).map (Percent.encode Percent.inPath)) :
    IsPiece special piece := by
  obtain ⟨plain, cut, rfl⟩ := List.mem_map.1 member
  refine ⟨fun c => Percent.not_of_mem_encode (by decide) (by decide), fun c here slash => ?_⟩
  -- No slash is a part of an encoded byte.
  have kept : c ∈ plain := by
    have slashes : c = '/' ∨ c = '\\' := by
      simp only [isSlash, Bool.or_eq_true, Bool.and_eq_true, decide_eq_true_eq] at slash
      exact slash.imp_right And.right
    rcases slashes with rfl | rfl
    · exact Percent.mem_of_mem_encode (by decide) (by decide) here
    · exact Percent.mem_of_mem_encode (by decide) (by decide) here
  have separated := (of_mem_splitOnP cut c kept).2
  rw [← Bool.not_eq_true] at separated
  exact separated slash

/-! ## Drives -/

theorem isDrive_iff {s : List Char} :
    isDrive s ↔ ∃ c mark, s = [c, mark] ∧ isLetter c ∧ (mark = ':' ∨ mark = '|') := by
  unfold isDrive
  split
  next c mark => simp
  next other =>
    constructor
    · nofun
    · rintro ⟨c, mark, rfl, -⟩
      exact absurd rfl (other c mark)

/-- A segment as it is read at the start of a path. -/
def startSegment (file : Bool) (s : List Char) : List Char :=
  if file && isDrive s then s.take 1 ++ [':'] else s

/-- A path as it is read again. -/
def respelled (file : Bool) : List (List Char) → List (List Char)
  | [] => []
  | first :: rest => startSegment file first :: rest

theorem IsSegment.startSegment {s : List Char} (stands : IsSegment special s) (file : Bool) :
    IsSegment special (startSegment file s) := by
  unfold Path.startSegment
  split
  next drive =>
    obtain ⟨c, mark, rfl, -⟩ := isDrive_iff.1 (Bool.and_eq_true_iff.1 drive).2
    -- Neither of the two characters has a meaning, and two characters are no dots.
    have encoded : ∀ x ∈ [c, ':'], ¬Percent.inPath x :=
      List.forall_mem_cons.2
        ⟨stands.encoded c List.mem_cons_self, List.forall_mem_singleton.2 (by decide)⟩
    have single : ∀ x ∈ [c, ':'], ¬isSlash special x :=
      List.forall_mem_cons.2 ⟨stands.single c List.mem_cons_self, by simp [isSlash]⟩
    refine ⟨⟨encoded, single⟩, by simp [isSingleDot], ?_⟩
    show ¬isDoubleDot [c, ':']
    unfold isDoubleDot
    split
    next same =>
      cases same
      decide
    next same => cases same
    next => decide
  next => exact stands

/-! ## Walks -/

namespace Walk

variable {w : Walk} {segment : List Char}

/-- Every finished segment stands for itself. -/
def IsSound (special : Bool) (w : Walk) : Prop := ∀ s ∈ w.done, IsSegment special s

theorem done_add (file : Bool) (w : Walk) (segment : List Char) :
    (w.add file segment).done =
      (if w.done = [] then startSegment file segment else segment) :: w.done := by
  unfold add startSegment
  by_cases start : w.done = []
  · cases drive : file && isDrive segment <;> simp [start, drive]
  · simp [start]

theorem IsSound.up (sound : w.IsSound special) : w.up.IsSound special := by
  unfold Walk.up
  split
  next => exact sound
  next last rest done =>
    split
    next => exact sound
    next => exact fun s member => sound s (done ▸ List.mem_cons_of_mem last member)

theorem IsSound.add (sound : w.IsSound special) (stands : IsSegment special segment)
    (file : Bool) : (w.add file segment).IsSound special := by
  unfold IsSound
  rw [done_add, List.forall_mem_cons]
  refine ⟨?_, sound⟩
  split
  next => exact stands.startSegment file
  next => exact stands

theorem IsSound.step (sound : w.IsSound special) (piece : IsPiece special segment)
    (file : Bool) : (w.step file segment).IsSound special := by
  unfold Walk.step
  split
  next => exact sound.up
  next notAbove =>
    split
    next => exact sound
    next notHere => exact sound.add ⟨piece, notHere, notAbove⟩ file

theorem IsSound.finish (sound : w.IsSound special) (piece : IsPiece special segment)
    (file : Bool) : (w.finish file segment).IsSound special := by
  unfold Walk.finish
  split
  next => exact List.forall_mem_cons.2 ⟨isSegment_nil, sound.up⟩
  next notAbove =>
    split
    next => exact List.forall_mem_cons.2 ⟨isSegment_nil, sound⟩
    next notHere => exact sound.add ⟨piece, notHere, notAbove⟩ file

theorem IsSound.run {pieces : List (List Char)} (sound : w.IsSound special)
    (cut : ∀ piece ∈ pieces, IsPiece special piece) (file : Bool) :
    (w.run file pieces).IsSound special := by
  -- By induction on the pieces: a walk that is sound stays sound.
  fun_induction Walk.run file w pieces with
  | case1 w => exact sound
  | case2 w last => exact sound.finish (cut last List.mem_cons_self) file
  | case3 w segment rest more ih =>
    rw [List.forall_mem_cons] at cut
    exact ih (sound.step cut.1 file) cut.2

/-- A segment that stands for itself is added, be it the last one or not. -/
theorem run_cons (stands : IsSegment special segment) (file : Bool) (w : Walk)
    (rest : List (List Char)) :
    w.run file (segment :: rest) = (w.add file segment).run file rest := by
  cases rest with
  | nil => simp [run, finish, stands.notHere, stands.notAbove]
  | cons next rest => simp [run, step, stands.notHere, stands.notAbove]

/-- Behind the start of a path segments stay as they are. -/
theorem done_run_of_ne_nil {names : List (List Char)} (each : ∀ s ∈ names, IsSegment special s)
    (file : Bool) (started : w.done ≠ []) :
    (w.run file names).done = names.reverse ++ w.done := by
  induction names generalizing w with
  | nil => rfl
  | cons s names ih =>
    rw [List.forall_mem_cons] at each
    have added : (w.add file s).done = s :: w.done := by rw [done_add, if_neg started]
    rw [run_cons each.1, ih each.2 (by simp [added]), added]
    simp

theorem done_run_start {names : List (List Char)} (each : ∀ s ∈ names, IsSegment special s)
    (file : Bool) : (run file ⟨[], false⟩ names).done = (respelled file names).reverse := by
  cases names with
  | nil => rfl
  | cons first rest =>
    rw [List.forall_mem_cons] at each
    have added : (add file ⟨[], false⟩ first).done = [startSegment file first] := by
      rw [done_add, if_pos rfl]
    rw [run_cons each.1, done_run_of_ne_nil each.2 file (by simp [added]), added]
    simp [respelled]

end Walk

/-! ## Whole paths -/

theorem trimStart_subset (names : List (List Char)) : trimStart names ⊆ names := by
  fun_induction trimStart names with
  | case1 s rest ih => exact fun x member => List.mem_cons_of_mem _ (ih member)
  | case2 names other => exact List.Subset.refl _

theorem eq_nil_of_trimStart {names rest : List (List Char)}
    (trimmed : trimStart names = [] :: rest) : rest = [] := by
  fun_induction trimStart names with
  | case1 s more ih => exact ih trimmed
  | case2 names other =>
    cases rest with
    | nil => rfl
    | cons s rest => exact absurd trimmed (other s rest)

theorem trimStart_eq_self {names : List (List Char)}
    (trimmed : ∀ rest, names = [] :: rest → rest = []) : trimStart names = names := by
  fun_induction trimStart names with
  | case1 s rest => cases trimmed _ rfl
  | case2 => rfl

/-- The segments of a path that was read. -/
structure AreSegments (special file : Bool) (names : List (List Char)) : Prop where
  each : ∀ s ∈ names, IsSegment special s
  /-- The path of a file does not begin with an empty segment, unless that is all of it. -/
  trimmed : file → ∀ rest, names = [] :: rest → rest = []

theorem areSegments_segments (special file : Bool) (path : List Char) :
    AreSegments special file (segments special file [] path).1 := by
  have sound : Walk.IsSound special ⟨[], false⟩ := nofun
  have done := sound.run (fun _ => isPiece_of_mem_split (s := path)) file
  unfold segments
  dsimp only
  generalize Walk.run file ⟨[], false⟩ _ = w at done ⊢
  have each : ∀ s ∈ w.done.reverse, IsSegment special s :=
    fun s member => done s (List.mem_reverse.1 member)
  split
  next =>
    exact ⟨fun s member => each s (trimStart_subset _ member), fun _ _ => eq_nil_of_trimStart⟩
  next other => exact ⟨each, fun isFile => absurd isFile other⟩

theorem split_text {first : List Char} {rest : List (List Char)}
    (each : ∀ s ∈ first :: rest, IsSegment special s) :
    split special (first ++ text rest) = first :: rest := by
  have single : ∀ s ∈ first :: rest, ∀ c ∈ s, isSlash special c = false :=
    fun s member c here => Bool.eq_false_iff.2 ((each s member).single c here)
  change (first ++ text rest).splitOnP (isSlash special) = first :: rest
  induction rest generalizing first with
  | nil =>
    rw [text, List.flatMap_nil, List.append_nil]
    exact List.splitOnP_eq_singleton (single first List.mem_cons_self)
  | cons next rest ih =>
    have behind : text (next :: rest) = '/' :: (next ++ text rest) := rfl
    rw [behind, List.splitOnP_append_cons_of_forall_mem (single first List.mem_cons_self) '/' rfl,
      ih (fun s member => each s (List.mem_cons_of_mem first member))
        (fun s member => single s (List.mem_cons_of_mem first member))]

/-- A path that was read is read again as it is, but for a drive letter at its start. -/
theorem segments_text {first : List Char} {rest : List (List Char)}
    (are : AreSegments special file (first :: rest)) :
    (segments special file [] (first ++ text rest)).1 = respelled file (first :: rest) := by
  have encoded : (first :: rest).map (Percent.encode Percent.inPath) = first :: rest := by
    have same : ∀ s ∈ first :: rest, Percent.encode Percent.inPath s = s :=
      fun s member => Percent.encode_eq_self (are.each s member).encoded
    rw [List.map_congr_left same, List.map_id']
  unfold segments
  dsimp only
  rw [split_text are.each, encoded, Walk.done_run_start are.each, List.reverse_reverse]
  split
  next isFile =>
    refine trimStart_eq_self fun rest' same => ?_
    -- A drive letter is not empty, so that the first segment was empty before.
    obtain ⟨empty, rfl⟩ := List.cons.inj same
    refine are.trimmed isFile _ ?_
    rw [startSegment] at empty
    split at empty
    next => simp at empty
    next => rw [empty]
  next => rfl

theorem text_append (a b : List (List Char)) : text (a ++ b) = text a ++ text b :=
  List.flatMap_append

/-- A path ends in a slash if and only if its last segment is empty. -/
theorem endsInSlash_text {names : List (List Char)} (each : ∀ s ∈ names, IsSegment special s) :
    ['/'] <:+ text names ↔ names.getLast? = some [] := by
  rcases List.eq_nil_or_concat names with rfl | ⟨front, last, rfl⟩
  · simp [text]
  · have own : text [last] = '/' :: last := List.append_nil _
    rw [List.concat_eq_append, text_append, own, List.getLast?_concat, Option.some_inj]
    constructor
    · rintro ⟨before, same⟩
      by_contra filled
      -- The last character is one of the last segment, which has no slash.
      have ends := congrArg List.getLast? same
      rw [List.getLast?_concat, List.getLast?_append, List.getLast?_cons,
        List.getLast?_eq_some_getLast filled] at ends
      have slash : last.getLast filled = '/' := by simpa using ends.symm
      have member : '/' ∈ last := slash ▸ List.getLast_mem filled
      exact (each last (by simp)).single '/' member rfl
    · rintro rfl
      exact List.suffix_append _ _

/-- A slash behind a path that has none there. -/
theorem AreSegments.snoc {names : List (List Char)} (are : AreSegments special file names)
    (open' : names.getLast? ≠ some []) : AreSegments special file (names ++ [[]]) where
  each := by
    simpa [or_imp, forall_and] using ⟨are.each, isSegment_nil⟩
  trimmed isFile rest same := by
    cases names with
    | nil => exact (List.cons.inj same).2.symm
    | cons first more =>
      obtain ⟨rfl, -⟩ := List.cons.inj same
      obtain rfl := are.trimmed isFile more rfl
      exact absurd rfl open'

theorem respelled_snoc (file : Bool) (names : List (List Char)) :
    respelled file (names ++ [[]]) = respelled file names ++ [[]] := by
  cases names with
  | nil => simp [respelled, startSegment, isDrive]
  | cons first rest => rfl

end Path

/-! ## Whole URLs -/

section

variable {kind : SchemeKind}

theorem areSegments_readSegments (kind : SchemeKind) (path : List Char) :
    Path.AreSegments kind.isSpecial kind.isFile (readSegments kind path).1 := by
  unfold readSegments
  split
  next =>
    split
    next => exact Path.areSegments_segments _ _ _
    next => exact Path.areSegments_segments _ _ _
  next => exact Path.areSegments_segments _ _ _

theorem readSegments_text {names : List (List Char)} (filled : names ≠ [])
    (are : Path.AreSegments kind.isSpecial kind.isFile names) :
    (readSegments kind (Path.text names)).1 = Path.respelled kind.isFile names := by
  obtain ⟨first, rest, rfl⟩ := List.exists_cons_of_ne_nil filled
  have slash : Path.text (first :: rest) = '/' :: (first ++ Path.text rest) := rfl
  rw [slash, readSegments, if_pos (by simp)]
  exact Path.segments_text are

/-- The path of a URL that was read. -/
inductive IsPath (kind : SchemeKind) : Location → Prop where
  | rootless (text : String) : IsPath kind (.rootless text)
  | segments {names : List (List Char)}
      (are : Path.AreSegments kind.isSpecial kind.isFile names) : IsPath kind (.ofSegments names)

theorem text_ofSegments (names : List (List Char)) :
    (Location.ofSegments names).text.toList = Path.text names := by
  rw [Location.ofSegments, Location.text, String.toList_join, Path.text]
  simp [List.flatMap_map, String.toList_append]

end

end VectorFetch.Url

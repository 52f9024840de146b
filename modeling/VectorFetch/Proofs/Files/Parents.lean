import VectorFetch.Proofs.Files
import VectorFetch.Proofs.Text.Split

/-!
# Paths without their last part

* `text_eq_intercalate`, `pieces_intercalate`: a path and its pieces.
* `Trimmed`: a path that does not end in a piece without meaning.
* `parent?_of_pieces`: the path without its last part has all parts but the last one.
-/

namespace VectorFetch.Path

/-! ## Pieces -/

theorem slash_not_mem_pieces {path : Path} {piece : String} (member : piece ∈ path.pieces) :
    '/' ∉ piece.toList := by
  obtain ⟨letters, split, rfl⟩ := List.mem_map.1 member
  rw [String.toList_ofList]
  exact fun slash => (of_mem_splitOn split _ slash).2 rfl

theorem text_eq_intercalate (path : Path) : path.text = "/".intercalate path.pieces := by
  rw [← String.toList_inj, String.toList_intercalate, pieces, List.map_map]
  have same : (String.toList ∘ String.ofList) = id := by
    funext letters
    exact String.toList_ofList
  rw [same, List.map_id]
  exact (List.intercalate_splitOn '/').symm

theorem pieces_intercalate {texts : List String} (single : ∀ text ∈ texts, '/' ∉ text.toList)
    (filled : texts ≠ []) : (⟨"/".intercalate texts⟩ : Path).pieces = texts := by
  have letters : ∀ piece ∈ texts.map String.toList, '/' ∉ piece := by
    simpa using single
  have split := List.splitOn_intercalate '/' letters (by simpa using filled)
  simp only [pieces, String.toList_intercalate]
  change ((['/'].intercalate (texts.map String.toList)).splitOn '/').map String.ofList = texts
  rw [split, List.map_map]
  simp [Function.comp_def]

/-! ## Trimming -/

/-- What is dropped from the end has no meaning, and what stays ends in a piece that has one, or it
is the first piece alone. -/
theorem trimEnd_eq {pieces : List String} (filled : pieces ≠ []) : ∃ dropped kept last,
    pieces = dropped ++ last :: kept ∧ trimEnd pieces = last :: kept ∧
      (∀ piece ∈ dropped, piece = "" ∨ piece = ".") ∧
      (kept = [] ∨ last ≠ "" ∧ last ≠ ".") := by
  induction pieces with
  | nil => exact absurd rfl filled
  | cons piece pieces ih =>
    cases pieces with
    | nil => exact ⟨[], [], piece, rfl, rfl, List.forall_mem_nil _, .inl rfl⟩
    | cons next rest =>
      by_cases bare : piece = "" ∨ piece = "."
      · obtain ⟨dropped, kept, last, split, trimmed, bares, ends⟩ := ih (List.cons_ne_nil _ _)
        refine ⟨piece :: dropped, kept, last, by rw [split]; rfl, ?_, ?_, ends⟩
        · rw [trimEnd, if_pos (by simpa using bare), trimmed]
        · exact List.forall_mem_cons.2 ⟨bare, bares⟩
      · refine ⟨[], next :: rest, piece, rfl, ?_, List.forall_mem_nil _, .inr (not_or.1 bare)⟩
        rw [trimEnd, if_neg (by simpa using bare)]

/-- A path that ends in a name or in two dots, or that is as short as can be. -/
inductive Trimmed (path : Path) : Prop where
  | empty (text : path.text = "")
  | root (text : path.text = "/")
  | here (text : path.text = ".")
  | named {front : List String} {last : String} (pieces : path.pieces = front ++ [last])
      (filled : last ≠ "") (notHere : last ≠ ".")

theorem parts_of_root {path : Path} (text : path.text = "/") : path.parts = [] := by
  simp [parts, pieces, text, List.splitOn_cons_eq_if_modifyHead]

theorem parts_of_here {path : Path} (text : path.text = ".") : path.parts = ["."] := by
  simp [parts, pieces, text, List.splitOn_cons_eq_if_modifyHead]

theorem trimmed_behind_slash {path : Path} {name : String} (named : IsName name)
    {front : List Char} (text : path.text.toList = front ++ '/' :: name.toList) : Trimmed path := by
  have split : path.pieces = (front.splitOn '/').map String.ofList ++ [name] := by
    simp [pieces, text, List.splitOn_append_cons_self, List.splitOn_eq_singleton named.slashless]
  exact .named split named.notEmpty named.notHere

theorem trimmed_join (base : Path) {name : String} (named : IsName name) :
    Trimmed (base.join name) := by
  unfold join
  split
  next =>
    have alone : (⟨name⟩ : Path).pieces = [] ++ [name] := by
      simp [pieces, List.splitOn_eq_singleton named.slashless]
    exact .named alone named.notEmpty named.notHere
  next =>
    split
    next slash =>
      obtain ⟨front, text⟩ := endsInSlash_iff.1 slash
      have spelled : (base.text ++ name).toList = front ++ '/' :: name.toList := by simp [← text]
      exact trimmed_behind_slash named spelled
    next =>
      have spelled : (base.text ++ "/" ++ name).toList = base.text.toList ++ '/' :: name.toList := by
        simp
      exact trimmed_behind_slash named spelled

/-- The path without its last part: its text is a front of the path's, and so are its parts, except
for dots that say nothing. -/
structure IsParent (path : Path) (last : String) (parent : Path) : Prop where
  trimmed : Trimmed parent
  absolute : parent.isAbsolute = path.isAbsolute
  text : ∃ rest, path.text = parent.text ++ rest ∧ rest ≠ ""
  parts : ∃ dots, path.parts = parent.parts ++ dots ++ [last] ∧ ∀ dot ∈ dots, dot = "."

theorem isAbsolute_of_front {path parent : Path} {rest : String}
    (front : path.text = parent.text ++ rest) (filled : parent.text ≠ "") :
    parent.isAbsolute = path.isAbsolute := by
  rw [← isAbsolute_append parent filled rest, ← front]

theorem isParent_of_piece {path : Path} {last : String} (split : path.pieces = [last])
    (filled : last ≠ "") : IsParent path last ⟨""⟩ := by
  have text := path.text_eq_intercalate
  rw [split, String.intercalate_singleton] at text
  refine ⟨.empty rfl, ?_, ⟨last, by simp [text], filled⟩, [], ?_, List.forall_mem_nil _⟩
  · have slashless := slash_not_mem_pieces (path.pieces.mem_of_getLast? (a := last) (by simp [split]))
    rw [Bool.eq_iff_iff, isAbsolute_iff, isAbsolute_iff, text]
    constructor
    · rintro ⟨more, none⟩
      cases none
    · rintro ⟨more, spelled⟩
      exact absurd (spelled ▸ List.mem_cons_self) slashless
  · have parts : path.parts = [last] := by simp [Path.parts, split, filled]
    rw [parts]
    simp [Path.parts, pieces]

/-! Before the last piece stand pieces that stay and behind them pieces without meaning. -/

section Stay

variable {path : Path} {stay dropped : List String} {last : String}

theorem parts_of_stay (split : path.pieces = stay ++ (dropped ++ [last]))
    (bares : ∀ piece ∈ dropped, piece = "" ∨ piece = ".") (filled : last ≠ "") :
    ∃ dots, path.parts = stay.filter (· ≠ "") ++ dots ++ [last] ∧ ∀ dot ∈ dots, dot = "." := by
  refine ⟨dropped.filter (· ≠ ""), by simp [Path.parts, split, List.filter_append, filled], ?_⟩
  intro dot member
  obtain ⟨among, notEmpty⟩ := List.mem_filter.1 member
  exact (bares dot among).resolve_left (by simpa using notEmpty)

theorem text_of_stay (split : path.pieces = stay ++ (dropped ++ [last])) (some : stay ≠ []) :
    path.text = "/".intercalate stay ++ ("/" ++ "/".intercalate (dropped ++ [last])) := by
  rw [path.text_eq_intercalate, split, String.intercalate_append_of_ne_nil some (by simp),
    String.append_assoc]

theorem isParent_root (split : path.pieces = [""] ++ (dropped ++ [last]))
    (bares : ∀ piece ∈ dropped, piece = "" ∨ piece = ".") (filled : last ≠ "") :
    IsParent path last ⟨"/"⟩ := by
  have front : path.text = "/" ++ "/".intercalate (dropped ++ [last]) := by
    simpa using text_of_stay split (List.cons_ne_nil _ _)
  have behind : "/".intercalate (dropped ++ [last]) ≠ "" := by
    cases dropped with
    | nil => simpa using filled
    | cons dot more =>
      rw [String.intercalate_append_of_ne_nil (List.cons_ne_nil _ _) (List.cons_ne_nil _ _)]
      simp
  refine ⟨.root rfl, isAbsolute_of_front front (by decide), ⟨_, front, behind⟩, ?_⟩
  rw [parts_of_root rfl]
  exact parts_of_stay split bares filled

theorem isParent_intercalate (split : path.pieces = stay ++ (dropped ++ [last]))
    (bares : ∀ piece ∈ dropped, piece = "" ∨ piece = ".") (filled : last ≠ "")
    (some : stay ≠ []) (root : stay ≠ [""]) (trimmed : stay = ["."] ∨
      ∃ front neighbour, stay = front ++ [neighbour] ∧ neighbour ≠ "" ∧ neighbour ≠ ".") :
    IsParent path last ⟨"/".intercalate stay⟩ := by
  have slashless : ∀ piece ∈ stay, '/' ∉ piece.toList := fun piece member =>
    slash_not_mem_pieces (split ▸ List.mem_append_left _ member : piece ∈ path.pieces)
  have own := pieces_intercalate slashless some
  have front := text_of_stay split some
  refine ⟨?_, ?_, ⟨_, front, by simp⟩, ?_⟩
  · rcases trimmed with rfl | ⟨before, neighbour, rfl, filled, notHere⟩
    · exact .here (by simp)
    · exact .named own filled notHere
  · have filled : "/".intercalate stay ≠ "" := by
      intro none
      have single : (⟨""⟩ : Path).pieces = [""] := by simp [pieces]
      rw [none, single] at own
      exact root own.symm
    exact isAbsolute_of_front front filled
  · have parts := parts_of_stay split bares filled
    simpa only [Path.parts, own] using parts

end Stay

theorem parent?_of_pieces {path : Path} {front : List String} {last : String}
    (split : path.pieces = front ++ [last]) (filled : last ≠ "") (notHere : last ≠ ".") :
    ∃ parent, path.parent? = some parent ∧ IsParent path last parent := by
  rcases List.eq_nil_or_concat front with rfl | ⟨rest, first, rfl⟩
  · -- The path is one piece, and nothing is above it.
    have trimmed : trimEnd path.pieces.reverse = [last] := by simp [split, trimEnd]
    have found : path.parent? = some ⟨""⟩ := by simp only [parent?, trimmed, if_neg filled]
    exact ⟨_, found, isParent_of_piece split filled⟩
  · -- The pieces that stay are `last`'s neighbour and those before it, without dots at their end.
    obtain ⟨dropped, kept, neighbour, back, trimmed, bares, ends⟩ :=
      trimEnd_eq (List.cons_ne_nil first rest.reverse)
    have stay : rest ++ [first] = (neighbour :: kept).reverse ++ dropped.reverse := by
      have forwards := congrArg List.reverse back
      simpa using forwards
    have whole : trimEnd path.pieces.reverse = last :: first :: rest.reverse := by
      rw [split, List.concat_eq_append, List.reverse_append, List.reverse_append,
        List.reverse_singleton, List.reverse_singleton, List.singleton_append,
        List.singleton_append, trimEnd, if_neg (by simp [filled, notHere])]
    rw [List.concat_eq_append, stay, List.append_assoc] at split
    replace bares : ∀ piece ∈ dropped.reverse, piece = "" ∨ piece = "." := fun piece member =>
      bares piece (List.mem_reverse.1 member)
    unfold parent?
    rw [whole]
    dsimp only
    rw [trimmed]
    by_cases root : neighbour :: kept = [""]
    · rw [if_pos root]
      rw [root] at split
      exact ⟨_, rfl, isParent_root split bares filled⟩
    · rw [if_neg root]
      refine ⟨_, rfl, isParent_intercalate split bares filled (by simp)
        (fun alone => root (List.reverse_inj.1 alone)) ?_⟩
      by_cases here : neighbour :: kept = ["."]
      · exact .inl (by rw [here]; rfl)
      · refine .inr ⟨kept.reverse, neighbour, List.reverse_cons, ?_⟩
        rcases ends with rfl | named
        · exact ⟨by simpa using root, by simpa using here⟩
        · exact named

end VectorFetch.Path

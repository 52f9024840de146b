import VectorFetch.Json.Reader
import Mathlib.Data.List.Induction

/-!
# Brackets, strings and lines of a text

* `Scope`, `scopeOf`: what a text has opened: strings, brackets, and the parts of containers. It
  knows nothing of values and nothing of the layout.
* `strip`: a text without the white space outside of its strings.
* `IsLine`: a line of a text.
* `Column`, `Cursor`: what stands on the last line of a text as well.
* `Cursor.Allows`, `Lays`: what the layout asks of each character, and texts that keep to it.
* `Lays.indented`, `Lays.begins` and their like: what that says about the lines of the whole text.
-/

namespace VectorFetch.Json

/-! ## Scopes -/

inductive Quoting where
  | outside
  | inside
  /-- Behind a backslash in a string. -/
  | escaped
  deriving DecidableEq, Repr

def opensBracket (c : Char) : Bool := c = '[' || c = '{'

def closesBracket (c : Char) : Bool := c = ']' || c = '}'

/-- What stands around the next character of a text. -/
structure Scope where
  quoting : Quoting
  /-- How many brackets were opened and not yet closed. -/
  depth : Nat
  /-- Nothing but white space stands behind the last opening bracket or comma. -/
  awaits : Bool
  /-- How many members and elements have begun. -/
  parts : Nat
  deriving DecidableEq, Repr

namespace Scope

def start : Scope := ⟨.outside, 0, false, 0⟩

/-- Whether a character is white space between tokens. -/
def skips (s : Scope) (c : Char) : Bool := s.quoting = .outside && isBlank c

/-- Whether a member or an element begins with a character. -/
def begins (s : Scope) (c : Char) : Bool :=
  s.quoting = .outside && s.awaits && !isBlank c && !closesBracket c

def step (s : Scope) (c : Char) : Scope :=
  match s.quoting with
  | .escaped => { s with quoting := .inside }
  | .inside =>
    if c = '\\' then { s with quoting := .escaped }
    else if c = '"' then { s with quoting := .outside }
    else s
  | .outside =>
    if isBlank c then s
    else {
      quoting := if c = '"' then .inside else .outside
      depth :=
        if opensBracket c then s.depth + 1 else if closesBracket c then s.depth - 1 else s.depth
      awaits := opensBracket c || c = ','
      parts := if s.begins c then s.parts + 1 else s.parts }

end Scope

/-- What a text has opened. -/
def scopeOf (text : List Char) : Scope := text.foldl Scope.step .start

/-- A text behind a scope without the white space outside of strings. -/
def stripFrom (s : Scope) : List Char → List Char
  | [] => []
  | c :: rest => (if s.skips c then [] else [c]) ++ stripFrom (s.step c) rest

def strip (text : List Char) : List Char := stripFrom .start text

/-! ## Lines -/

/-- A line of a text, and what stands before and behind it. -/
structure IsLine (text before line behind : List Char) : Prop where
  whole : text = before ++ line ++ behind
  starts : before = [] ∨ before.getLast? = some '\n'
  single : '\n' ∉ line
  ends : behind = [] ∨ behind.head? = some '\n'

/-- What stands on the last line of a text. -/
inductive Column where
  /-- So many spaces. -/
  | blank (spaces : Nat)
  /-- Other characters as well; `spaced` says whether the last one is white space. -/
  | filled (spaced : Bool)
  deriving DecidableEq, Repr

def Column.step (column : Column) (c : Char) : Column :=
  if c = '\n' then .blank 0
  else
    match column with
    | .blank n => if c = ' ' then .blank (n + 1) else .filled (isBlank c)
    | .filled _ => .filled (isBlank c)

def columnOf (text : List Char) : Column := text.foldl Column.step (.blank 0)

theorem columnOf_concat (text : List Char) (c : Char) :
    columnOf (text ++ [c]) = (columnOf text).step c := by
  simp [columnOf]

/-- Spaces at the end of a text that fill its last line so far. -/
theorem of_columnOf_eq_blank {text : List Char} {n : Nat} (column : columnOf text = .blank n) :
    ∃ front, text = front ++ List.replicate n ' ' ∧
      (front = [] ∨ front.getLast? = some '\n') := by
  -- From the end, since the last character says whether the line is a new one.
  induction text using List.reverseRecOn generalizing n with
  | nil =>
    cases column
    exact ⟨[], rfl, .inl rfl⟩
  | append_singleton text c ih =>
    rw [columnOf_concat, Column.step.eq_def] at column
    split at column
    next newline =>
      cases column
      exact ⟨text ++ ['\n'], by simp [newline], .inr (by simp)⟩
    next =>
      split at column
      next m blank =>
        split at column
        next space =>
          cases column
          obtain ⟨front, rfl, starts⟩ := ih blank
          exact ⟨front, by simp [space, List.replicate_succ'], starts⟩
        next => cases column
      next => cases column

theorem columnOf_spaces {front : List Char} (starts : front = [] ∨ front.getLast? = some '\n')
    (n : Nat) : columnOf (front ++ List.replicate n ' ') = .blank n := by
  induction n with
  | zero =>
    rw [List.replicate_zero, List.append_nil]
    rcases starts with rfl | last
    · rfl
    · obtain ⟨before, rfl⟩ := List.getLast?_eq_some_iff.1 last
      rw [columnOf_concat]
      rfl
  | succ n ih =>
    rw [List.replicate_succ', ← List.append_assoc, columnOf_concat, ih]
    rfl

theorem of_columnOf_eq_filled {text : List Char} (column : columnOf text = .filled false) :
    ∃ front c, text = front ++ [c] ∧ ¬isBlank c := by
  induction text using List.reverseRecOn with
  | nil => cases column
  | append_singleton text c _ =>
    refine ⟨text, c, rfl, fun blank => ?_⟩
    rw [columnOf_concat, Column.step.eq_def, blank] at column
    split at column
    next => cases column
    next =>
      split at column
      next => split at column <;> cases column
      next => cases column

/-! ## Layouts -/

/-- What a text has opened, and what stands on its last line. -/
structure Cursor where
  scope : Scope
  column : Column
  deriving DecidableEq, Repr

namespace Cursor

def start : Cursor := ⟨.start, .blank 0⟩

def step (s : Cursor) (c : Char) : Cursor := ⟨s.scope.step c, s.column.step c⟩

/-- What the layout asks of the next character. -/
structure Allows (s : Cursor) (c : Char) : Prop where
  /-- A line ends outside of strings, and not in white space. -/
  newline : c = '\n' → s.scope.quoting = .outside ∧ s.column = .filled false
  /-- Four spaces stand before the first other character of a line for each bracket that is open,
  but for the one that it closes. -/
  indented : ∀ n, s.column = .blank n → c ≠ ' ' → c ≠ '\n' →
    ∃ d, n = 4 * d ∧ s.scope.depth = if closesBracket c then d + 1 else d
  /-- A member or an element stands first on its line. -/
  begins : s.scope.begins c → ∃ n, s.column = .blank n
  /-- Nothing stands between the brackets of an empty container. -/
  empty : s.scope.quoting = .outside → s.scope.awaits → closesBracket c → s.column = .filled false

end Cursor

/-- A text that keeps to the layout, from one cursor to another one, and what it is without the
white space outside of strings. -/
inductive Lays : Cursor → List Char → Cursor → List Char → Prop where
  | nil (s : Cursor) : Lays s [] s []
  | cons {s last : Cursor} {c : Char} {rest kept : List Char} (allowed : s.Allows c)
      (behind : Lays (s.step c) rest last kept) :
      Lays s (c :: rest) last ((if s.scope.skips c then [] else [c]) ++ kept)

namespace Lays

variable {s mid last : Cursor} {text more kept kept' before behind : List Char} {c : Char}

theorem append (first : Lays s text mid kept) (second : Lays mid more last kept') :
    Lays s (text ++ more) last (kept ++ kept') := by
  induction first with
  | nil => exact second
  | cons allowed _ ih =>
    rw [List.append_assoc]
    exact .cons allowed (ih second)

theorem stripFrom_eq (lays : Lays s text last kept) : stripFrom s.scope text = kept := by
  induction lays with
  | nil => rfl
  | cons _ _ ih => rw [stripFrom, ← ih]; rfl

theorem last_eq (lays : Lays s text last kept) : last = text.foldl Cursor.step s := by
  induction lays with
  | nil => rfl
  | cons _ _ ih => exact ih

theorem allows (lays : Lays s (before ++ c :: behind) last kept) :
    (before.foldl Cursor.step s).Allows c := by
  induction before generalizing s kept with
  | nil =>
    cases lays with
    | cons allowed => exact allowed
  | cons b before ih =>
    cases lays with
    | cons _ rest => exact ih rest

end Lays

theorem foldl_step (text : List Char) (s : Cursor) : text.foldl Cursor.step s =
    ⟨text.foldl Scope.step s.scope, text.foldl Column.step s.column⟩ := by
  induction text generalizing s with
  | nil => rfl
  | cons c text ih => exact ih (s.step c)

/-- What stands before a character of a whole text. -/
theorem foldl_step_start (text : List Char) :
    text.foldl Cursor.step .start = ⟨scopeOf text, columnOf text⟩ := foldl_step text .start

/-! ## The lines of a text -/

section

variable {text kept before line behind : List Char} {c : Char} {scope : Scope}

/-- What stands before a character allows it. -/
theorem Lays.allowed (lays : Lays .start text ⟨scope, .filled false⟩ kept)
    (whole : text = before ++ c :: behind) : Cursor.Allows ⟨scopeOf before, columnOf before⟩ c := by
  subst whole
  rw [← foldl_step_start]
  exact lays.allows

theorem Lays.columnOf_eq (lays : Lays .start text ⟨scope, .filled false⟩ kept) :
    columnOf text = .filled false := by
  have last := lays.last_eq
  rw [foldl_step_start] at last
  exact (congrArg Cursor.column last).symm

theorem exists_spaces (line : List Char) :
    ∃ n rest, line = List.replicate n ' ' ++ rest ∧ rest.head? ≠ some ' ' := by
  induction line with
  | nil => exact ⟨0, [], rfl, nofun⟩
  | cons c line ih =>
    by_cases space : c = ' '
    · obtain ⟨n, rest, rfl, other⟩ := ih
      exact ⟨n + 1, rest, by rw [space]; rfl, other⟩
    · exact ⟨0, c :: line, rfl, by simpa using space⟩

/-- No line is empty or ends in white space. -/
theorem Lays.columnOf_line (lays : Lays .start text ⟨scope, .filled false⟩ kept)
    (isLine : IsLine text before line behind) : columnOf (before ++ line) = .filled false := by
  obtain ⟨whole, -, -, ends⟩ := isLine
  cases behind with
  | nil =>
    rw [List.append_nil] at whole
    exact whole ▸ lays.columnOf_eq
  | cons c behind =>
    obtain rfl : c = '\n' := by simpa using ends
    exact ((lays.allowed whole).newline rfl).2

/-- Each line starts with four spaces for each bracket that is open, but for the one that its first
other character closes. -/
theorem Lays.indented (lays : Lays .start text ⟨scope, .filled false⟩ kept)
    (isLine : IsLine text before line behind) :
    ∃ d c rest, line = List.replicate (4 * d) ' ' ++ c :: rest ∧ c ≠ ' ' ∧
      (scopeOf (before ++ List.replicate (4 * d) ' ')).depth =
        if closesBracket c then d + 1 else d := by
  have column := lays.columnOf_line isLine
  obtain ⟨whole, starts, single, -⟩ := isLine
  obtain ⟨n, rest, rfl, other⟩ := exists_spaces line
  have spaces := columnOf_spaces starts n
  cases rest with
  | nil =>
    rw [List.append_nil, spaces] at column
    cases column
  | cons c rest =>
    -- The first character of the line that counts is the one behind all of its blanks.
    have space : c ≠ ' ' := by simpa using other
    have newline : c ≠ '\n' := by
      rintro rfl
      exact single (by simp)
    have cut : text = (before ++ List.replicate n ' ') ++ c :: (rest ++ behind) := by
      simpa using whole
    obtain ⟨d, rfl, depth⟩ := (lays.allowed cut).indented n spaces space newline
    exact ⟨d, c, rest, rfl, space, depth⟩

theorem Lays.getLast?_line (lays : Lays .start text ⟨scope, .filled false⟩ kept)
    (isLine : IsLine text before line behind) : line.getLast? ≠ some ' ' := by
  obtain ⟨front, c, same, notBlank⟩ := of_columnOf_eq_filled (lays.columnOf_line isLine)
  -- The last character of the line is the last one of the text up to there.
  intro space
  have last : (before ++ line).getLast? = some ' ' := by
    rw [List.getLast?_append, space]
    rfl
  rw [same, List.getLast?_concat] at last
  obtain rfl := Option.some.inj last
  exact notBlank (by decide)

theorem Lays.getLast?_ne (lays : Lays .start text ⟨scope, .filled false⟩ kept) :
    text.getLast? ≠ some '\n' := by
  obtain ⟨front, c, rfl, notBlank⟩ := of_columnOf_eq_filled lays.columnOf_eq
  rw [List.getLast?_concat]
  rintro ⟨⟩
  exact notBlank (by decide)

/-- White space makes no difference to what was opened. -/
theorem foldl_step_blank {s : Scope} {blank : List Char} (outside : s.quoting = .outside)
    (each : ∀ c ∈ blank, isBlank c) : blank.foldl Scope.step s = s := by
  induction blank with
  | nil => rfl
  | cons c blank ih =>
    obtain ⟨first, others⟩ := List.forall_mem_cons.1 each
    have stays : s.step c = s := by simp only [Scope.step, outside, first, if_true]
    rw [List.foldl_cons, stays]
    exact ih others

/-- A member or an element stands first on its line, and that is not the first line. -/
theorem Lays.begins (lays : Lays .start text ⟨scope, .filled false⟩ kept)
    (whole : text = before ++ c :: behind) (begins : (scopeOf before).begins c) :
    ∃ front n, before = front ++ '\n' :: List.replicate n ' ' := by
  obtain ⟨n, column⟩ := (lays.allowed whole).begins begins
  obtain ⟨front, rfl, starts⟩ := of_columnOf_eq_blank column
  rcases starts with rfl | newline
  · -- Behind nothing but spaces no container is open.
    have blank : ∀ c ∈ List.replicate n ' ', isBlank c := by
      intro c member
      rw [List.eq_of_mem_replicate member]
      decide
    rw [List.nil_append, scopeOf, foldl_step_blank rfl blank] at begins
    cases begins
  · obtain ⟨front, rfl⟩ := List.getLast?_eq_some_iff.1 newline
    exact ⟨front, n, by simp⟩

/-- Brackets with nothing but white space in between have nothing in between. -/
theorem Lays.empty (lays : Lays .start text ⟨scope, .filled false⟩ kept) {opening closing : Char}
    {blank : List Char} (whole : text = before ++ opening :: blank ++ closing :: behind)
    (outside : (scopeOf before).quoting = .outside) (opens : opensBracket opening)
    (closes : closesBracket closing) (each : ∀ c ∈ blank, isBlank c) : blank = [] := by
  have notBlank : ¬isBlank opening := by
    simp only [opensBracket, Bool.or_eq_true, decide_eq_true_eq] at opens
    rcases opens with rfl | rfl <;> decide
  have notQuote : opening ≠ '"' := by
    rintro rfl
    cases opens
  have opened : ((scopeOf before).step opening).quoting = .outside ∧
      ((scopeOf before).step opening).awaits := by
    simp [Scope.step, outside, notBlank, notQuote, opens]
  have scope : scopeOf (before ++ opening :: blank) = (scopeOf before).step opening := by
    rw [scopeOf, List.foldl_append, List.foldl_cons]
    exact foldl_step_blank opened.1 each
  -- So far nothing has come behind the bracket, and the line goes on where it ends.
  have column := (lays.allowed whole).empty (scope ▸ opened.1) (scope ▸ opened.2) closes
  obtain ⟨front, c, same, other⟩ := of_columnOf_eq_filled column
  -- The last character is no white space, so it is the bracket.
  cases blank using List.reverseRecOn with
  | nil => rfl
  | append_singleton blank d =>
    have last : d = c := by
      rw [← List.cons_append, ← List.append_assoc] at same
      exact List.singleton_inj.1 (List.append_inj' same rfl).2
    exact absurd (each c (by simp [last])) other

end

end VectorFetch.Json

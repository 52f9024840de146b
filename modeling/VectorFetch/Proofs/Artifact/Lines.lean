import VectorFetch.Proofs.Artifact
import VectorFetch.Proofs.Json.Lines

/-!
# The lines of artifacts

* `LaidOut`: how the document of a value is divided into lines. It is said of the text alone, with
  what `Json.scopeOf` finds in it.
* `document?_laidOut`: the document of every value that was read is laid out so.
-/

namespace VectorFetch.Artifact

open Json

/-- How the document of a value is divided into lines. -/
structure LaidOut (value : Value) (text : List Char) : Prop where
  unended : text.getLast? ≠ some '\n'
  /-- No line ends inside a string. -/
  newlines : ∀ before behind, text = before ++ '\n' :: behind →
    (scopeOf before).quoting = .outside
  /-- A line starts with four spaces for each bracket that is open before its first other character,
  less one bracket if that character closes it. No line ends in a space. -/
  lines : ∀ before line behind, IsLine text before line behind →
    (∃ d c rest, line = List.replicate (4 * d) ' ' ++ c :: rest ∧ c ≠ ' ' ∧
      (scopeOf (before ++ List.replicate (4 * d) ' ')).depth =
        if closesBracket c then d + 1 else d) ∧
    line.getLast? ≠ some ' '
  /-- Each member and each element starts a line, and that is not the first one. -/
  begins : ∀ before c behind, text = before ++ c :: behind → (scopeOf before).begins c →
    ∃ front n, before = front ++ '\n' :: List.replicate n ' '
  /-- The parts of containers that begin in the text are those of the value. -/
  parts : (scopeOf text).parts = value.parts
  /-- Empty containers are two brackets. -/
  empty : ∀ before opening blank closing behind,
    text = before ++ opening :: blank ++ closing :: behind →
    (scopeOf before).quoting = .outside → opensBracket opening → closesBracket closing →
    (∀ c ∈ blank, isBlank c) → blank = []
  /-- Without white space outside of strings it is the compact document. -/
  compact : strip text = value.compact

theorem laidOut_of_lays {value : Value} {text : List Char}
    (lays : Lays .start text (.behind 0 value.parts) value.compact) : LaidOut value text where
  unended := lays.getLast?_ne
  newlines before behind whole := ((lays.allowed whole).newline rfl).1
  lines before line behind isLine := ⟨lays.indented isLine, lays.getLast?_line isLine⟩
  begins before c behind whole := lays.begins whole
  parts := by
    have last := lays.last_eq
    rw [foldl_step_start] at last
    exact (congrArg (·.scope.parts) last).symm
  empty before opening blank closing behind whole := lays.empty whole
  compact := lays.stripFrom_eq

/-- The layout law: the document of every value that was read is laid out in lines, however deep it
nests and whatever its strings hold. -/
theorem document?_laidOut {body : Bytes} {value : Value} (accepted : parse body = .ok value) :
    ∃ text, document? value = some text ∧ LaidOut value text.toList := by
  obtain ⟨tree, -, means⟩ := exists_tree_of_parse accepted
  exact ⟨value.pretty, document?_eq value, laidOut_of_lays (lays_pretty (readable_of_value? means))⟩

/-- Empty containers beside others, and a string with brackets, a quote and a new line. -/
theorem document?_laidOut_of_nested :
    let body := Utf8.encode "\x7b\"a\": [], \"b\":[1E2,\"]\\n\\\"\x7b, \", \x7b\x7d]\x7d"
    let value : Value := .object [("a", .array []),
      ("b", .array [.number "1e+2", .string "]\n\"\x7b, ", .object []])]
    let text := "\x7b\n    \"a\": [],\n    \"b\": [\n        1e+2,\n        \"]\\n\\\"\x7b, \",\n"
      ++ "        \x7b\x7d\n    ]\n\x7d"
    parse body = .ok value ∧ document? value = some text ∧ LaidOut value text.toList := by
  intro body value text
  have accepted : parse body = .ok value := by decide +kernel
  have made : document? value = some text := by decide +kernel
  obtain ⟨own, makes, laidOut⟩ := document?_laidOut accepted
  obtain rfl : own = text := Option.some.inj (makes.symm.trans made)
  exact ⟨accepted, made, laidOut⟩

end VectorFetch.Artifact

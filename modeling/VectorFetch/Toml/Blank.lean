import VectorFetch.Text.Utf8

/-!
# Blanks, comments and line ends in TOML

* `skipBlanks`: blanks within a line.
* `skipComment`, `trailing?`: what may stand behind a statement.
* `skipFiller?`: what may stand between the items of an array.
-/

namespace VectorFetch.Toml

/-- A space or a tab. -/
def isBlank (c : Char) : Bool := c = ' ' || c = '\t'

/-- A tab, or any character that is no control. -/
def isPlain (c : Char) : Bool := c = '\t' || (0x20 ≤ c.toNat && c.toNat ≠ 0x7F)

def skipBlanks (s : List Char) : List Char := s.dropWhile isBlank

/-- The text behind a line break. -/
def newline? : List Char → Option (List Char)
  | '\n' :: rest => some rest
  | '\r' :: '\n' :: rest => some rest
  | _ => none

/-- The text behind a line break; the end of the text counts as one. -/
def lineEnd? (s : List Char) : Option (List Char) := if s.isEmpty then some [] else newline? s

/-- The text behind a comment, if there is one. -/
def skipComment : List Char → List Char
  | '#' :: rest => rest.dropWhile isPlain
  | s => s

/-- The text behind the rest of a line, which may hold blanks and a comment. -/
def trailing? (s : List Char) : Option (List Char) := lineEnd? (skipComment (skipBlanks s))

/-- The text behind blanks, line breaks and comments. A comment has to end in a line
break; `inComment` says that the text starts inside one. -/
def skipFiller? (inComment : Bool) : List Char → Option (List Char)
  | [] => if inComment then none else some []
  | c :: rest =>
    if c = '\n' then skipFiller? false rest
    else if c = '\r' then
      match rest with
      | '\n' :: rest => skipFiller? false rest
      | _ => none
    else if inComment then
      if isPlain c then skipFiller? true rest else none
    else if isBlank c then skipFiller? false rest
    else if c = '#' then skipFiller? true rest
    else some (c :: rest)

end VectorFetch.Toml

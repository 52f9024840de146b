import VectorFetch.Json.Value
import VectorFetch.Text.Utf8

/-!
# The layout of JSON documents

Documents are laid out with one member or item to a line and four spaces for each
container around it. Empty containers stay on their line as `[]` and `\x7b\x7d`, a
colon is followed by one space, and nothing follows the last character.

* `escapeChar`, `quoted`: strings. Only the quote, the backslash and control
  characters below U+0020 are escaped.
* `Value.fragments`: the pieces of a document in the order in which they are written.
* `Value.pretty`: the whole document.
-/

namespace VectorFetch.Json

/-! ## Strings -/

/-- A character as it is written inside a string. -/
def escapeChar (c : Char) : List Char :=
  match c with
  | '"' => ['\\', '"']
  | '\\' => ['\\', '\\']
  | '\x08' => ['\\', 'b']
  | '\t' => ['\\', 't']
  | '\n' => ['\\', 'n']
  | '\x0c' => ['\\', 'f']
  | '\r' => ['\\', 'r']
  | c =>
    if c.toNat < 32 then
      ['\\', 'u', '0', '0', (c.toNat / 16).digitChar, (c.toNat % 16).digitChar]
    else [c]

def quoted (s : String) : String :=
  String.ofList ('"' :: (s.toList.flatMap escapeChar ++ ['"']))

/-! ## Documents -/

/-- The start of a line inside `depth` containers. -/
def indent (depth : Nat) : String := String.ofList (List.replicate (4 * depth) ' ')

mutual

/-- The pieces of a value that stands inside `depth` containers. -/
def Value.fragments (depth : Nat) : Value → List String
  | .null => ["null"]
  | .bool true => ["true"]
  | .bool false => ["false"]
  | .number text => [text]
  | .string text => [quoted text]
  | .array [] => ["[", "]"]
  | .array (item :: items) =>
    "[" :: "\n" :: indent (depth + 1) :: item.fragments (depth + 1)
      ++ itemFragments depth items
  | .object [] => ["\x7b", "\x7d"]
  | .object ((name, value) :: members) =>
    "\x7b" :: "\n" :: indent (depth + 1) :: quoted name :: ": " :: value.fragments (depth + 1)
      ++ memberFragments depth members

/-- The items behind the first one, and the end of the array. -/
def itemFragments (depth : Nat) : List Value → List String
  | [] => ["\n", indent depth, "]"]
  | item :: items =>
    ",\n" :: indent (depth + 1) :: item.fragments (depth + 1) ++ itemFragments depth items

/-- The members behind the first one, and the end of the object. -/
def memberFragments (depth : Nat) : List (String × Value) → List String
  | [] => ["\n", indent depth, "\x7d"]
  | (name, value) :: members =>
    ",\n" :: indent (depth + 1) :: quoted name :: ": " :: value.fragments (depth + 1)
      ++ memberFragments depth members

end

def Value.pretty (v : Value) : String := String.join (v.fragments 0)

end VectorFetch.Json

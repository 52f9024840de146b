import VectorFetch.Text.Visible

/-!
# Quoted text

`quoted` shows a text between double quotes on one line. The quote, the backslash
and the usual controls have short escapes; every other character that is not
visible is shown by its number, as in `\u{1b}`.
-/

namespace VectorFetch.Text

/-- A character as it is shown between quotes. -/
def showChar (c : Char) : List Char :=
  match c with
  | '\x00' => ['\\', '0']
  | '\t' => ['\\', 't']
  | '\n' => ['\\', 'n']
  | '\r' => ['\\', 'r']
  | '"' => ['\\', '"']
  | '\\' => ['\\', '\\']
  | c =>
    if isVisible c then [c]
    else ['\\', 'u', '{'] ++ Nat.toDigits 16 c.toNat ++ ['}']

def quoted (s : String) : String :=
  String.ofList ('"' :: (s.toList.flatMap showChar ++ ['"']))

end VectorFetch.Text

import Bindery.Text.Unicode.Class

/-!
# Escaped texts

How a text is quoted in a message, so that every character of it can be seen: quotes, backslashes
and the common controls have short escapes, and what has no visible form of its own is given by its
code.
-/

namespace Bindery.Text

/-- The code of `c` in hexadecimal, as an escape. -/
def codeEscape (c : Char) : String :=
  "\\u\x7b" ++ String.ofList (Nat.toDigits 16 c.toNat) ++ "\x7d"

/-- What stands for `c` in an escaped text. -/
def escapedChar (c : Char) : String :=
  match c with
  | '\x00' => "\\0"
  | '\t' => "\\t"
  | '\r' => "\\r"
  | '\n' => "\\n"
  | '\\' => "\\\\"
  | '"' => "\\\""
  | c => if isVisible c then String.singleton c else codeEscape c

/-- A text in quotes, with every character visible. -/
def escaped (s : String) : String :=
  "\"" ++ String.join (s.toList.map escapedChar) ++ "\""

end Bindery.Text

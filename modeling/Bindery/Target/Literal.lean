/-!
# String literals

How a text is written as a string literal in generated source. A quote and a backslash are escaped
by a backslash, a line feed is written `\n`, and every other character stands for itself.
-/

namespace Bindery.Target

/-- The characters that stand for `c` between the quotes of a literal. -/
def literalChar (c : Char) : List Char :=
  match c with
  | '"' => ['\\', '"']
  | '\\' => ['\\', '\\']
  | '\n' => ['\\', 'n']
  | c => [c]

/-- The characters of the literal that denotes the text `cs`, quotes included. -/
def literalChars (cs : List Char) : List Char :=
  '"' :: cs.flatMap literalChar ++ ['"']

/-- The string literal that denotes `s`. -/
def literal (s : String) : String :=
  String.ofList (literalChars s.toList)

end Bindery.Target

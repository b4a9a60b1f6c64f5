import Bindery.Text.Unicode.Class

/-!
# Identifiers

Which texts can name a class or a field. Reserved words and ill-formed texts are told apart, because
messages tell them apart.

## Main definitions

* `Target.isReserved`: the words that cannot be names
* `Target.identifierFault?`: what is wrong with the form of a name, if anything
-/

namespace Bindery.Target

/-- The reserved words, the words for constants, and the single underscore. -/
def reservedWords : List String :=
  ["abstract", "assert", "boolean", "break", "byte", "case", "catch", "char", "class", "const",
   "continue", "default", "do", "double", "else", "enum", "extends", "final", "finally", "float",
   "for", "goto", "if", "implements", "import", "instanceof", "int", "interface", "long", "native",
   "new", "package", "private", "protected", "public", "return", "short", "static", "strictfp",
   "super", "switch", "synchronized", "this", "throw", "throws", "transient", "try", "void",
   "volatile", "while", "true", "false", "null", "_"]

/-- Whether a text is a reserved word. -/
def isReserved (name : String) : Bool :=
  reservedWords.contains name

/-- Whether `c` may stand in a name: a letter, a number, an underscore or a dollar sign. -/
def isIdentifierChar (c : Char) : Bool :=
  Text.isAlphanumeric c || c == '_' || c == '$'

/-- What can be wrong with the form of a name. -/
inductive IdentifierFault where
  | empty
  | startsWithDigit
  | badStart
  | badCharacter
  deriving DecidableEq, Repr, Inhabited

/-- The wording of a fault. -/
def IdentifierFault.message : IdentifierFault → String
  | empty => "name cannot be empty"
  | startsWithDigit => "name cannot start with a digit"
  | badStart => "name must start with a letter, '_' or '$'"
  | badCharacter => "name contains invalid characters"

/-- The first fault in the form of a name. Only the ASCII digits count as digits here. -/
def identifierFault? (name : String) : Option IdentifierFault :=
  match name.toList with
  | [] => some .empty
  | c :: cs =>
    if c.isDigit then some .startsWithDigit
    else if !isIdentifierChar c then some .badStart
    else if !cs.all isIdentifierChar then some .badCharacter
    else none

end Bindery.Target

import Bindery.Text.Basic

/-!
# Spans

Places in a text, counted in bytes of its UTF-8 form.

## Main definitions

* `Text.Span`: an offset and a length
* `Text.dropBytes?`: the text from a byte offset on
* `Text.findFrom?`: the first occurrence of a text from a byte offset on
-/

namespace Bindery.Text

/-- A place in a text: where it starts and how long it is, in bytes. -/
structure Span where
  /-- The bytes before the place. -/
  offset : Nat
  /-- The bytes of the place. -/
  length : Nat
  deriving DecidableEq, Repr, Inhabited

/-- What is left of a text after `n` bytes; none if the text is shorter or a character is cut. -/
def dropBytes? : (n : Nat) → List Char → Option (List Char)
  | 0, cs => some cs
  | _ + 1, [] => none
  | n + 1, c :: cs => if c.utf8Size ≤ n + 1 then dropBytes? (n + 1 - c.utf8Size) cs else none

/-- The offset of the first occurrence of `pattern` in a text that starts at `offset`. -/
def findAt? (pattern : List Char) (offset : Nat) : List Char → Option Nat
  | [] => if pattern.isEmpty then some offset else none
  | c :: cs =>
    if pattern.isPrefixOf (c :: cs) then some offset
    else findAt? pattern (offset + c.utf8Size) cs

/-- The offset of the first occurrence of `pattern` at or after the byte offset `start`. -/
def findFrom? (pattern text : List Char) (start : Nat) : Option Nat :=
  (dropBytes? start text).bind (findAt? pattern start)

/-- The place of the first `"value"` at or after `start`, the quotes left out. -/
def findQuoted? (text value : List Char) (start : Nat) : Option Span :=
  (findFrom? ('"' :: value ++ ['"']) text start).map fun offset =>
    { offset := offset + 1, length := byteLength value }

end Bindery.Text

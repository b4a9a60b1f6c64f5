/-!
# Dotted names and prefixes

Text operations that the rest of the library shares: cutting a text at a separator, removing a
prefix, replacing one character by another, and the order of texts. Each is a structural recursion
over the list of characters, wrapped for `String`.

## Main definitions

* `Text.splitOn sep cs`: the pieces of `cs` between separators, never an empty list
* `Text.segments name`: the pieces of a dotted name
* `Text.dropPrefix? start s`: what follows `start` in `s`, if `s` begins with it
* `Text.precedes s t`: whether `s` stands in front of `t` in the order of texts
-/

namespace Bindery.Text

/-- The pieces of a text between occurrences of `sep`; a text without `sep` is one piece. -/
def splitOn (sep : Char) : List Char → List (List Char)
  | [] => [[]]
  | c :: cs =>
    if c = sep then [] :: splitOn sep cs
    else match splitOn sep cs with
      | [] => [[c]]
      | piece :: pieces => (c :: piece) :: pieces

/-- The segments of a dotted name. -/
def segments (name : String) : List String :=
  (splitOn '.' name.toList).map String.ofList

/-- What follows `start` in `s`, if `s` begins with `start`. -/
def dropPrefixChars? : (start s : List Char) → Option (List Char)
  | [], s => some s
  | _ :: _, [] => none
  | p :: ps, c :: cs => if p = c then dropPrefixChars? ps cs else none

/-- What follows `start` in `s`, if `s` begins with `start`. -/
def dropPrefix? (start s : String) : Option String :=
  (dropPrefixChars? start.toList s.toList).map String.ofList

/-- The text with every `old` replaced by `new`. -/
def replaceChar (old new : Char) (s : String) : String :=
  String.ofList (s.toList.map fun c => if c = old then new else c)

/-- Whether a text stands in front of another: where they first differ, it has the smaller character
or is at its end. -/
def charsPrecede : List Char → List Char → Bool
  | _, [] => false
  | [], _ :: _ => true
  | c :: cs, d :: ds => c.toNat < d.toNat || (c == d && charsPrecede cs ds)

/-- Whether a text stands in front of another. -/
def precedes (s t : String) : Bool := charsPrecede s.toList t.toList

/-- The texts one after the other, with `sep` between neighbours. -/
def join (sep : String) (pieces : List String) : String :=
  sep.intercalate pieces

/-- The number of bytes of a text in UTF-8. -/
def byteLength : List Char → Nat
  | [] => 0
  | c :: cs => c.utf8Size + byteLength cs

end Bindery.Text

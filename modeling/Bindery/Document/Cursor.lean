import Bindery.Text.Span

/-!
# Cursors

A place in a document from which reading goes on: the bytes before it and the characters after it.
A reader takes a cursor and gives what it has read with the cursor behind it, or nothing if the text
does not start with such a thing.

## Main definitions

* `Cursor`, `Reader`: a place, and what reads from it
* `skipBlanks`, `skipLayout`, `lineEnd`: what may stand between the parts of a document
-/

namespace Bindery.Document

open Text (Span byteLength)

/-- A place in a document. -/
structure Cursor where
  /-- The bytes before the place. -/
  offset : Nat
  /-- The characters after the place. -/
  rest : List Char
  deriving DecidableEq, Repr, Inhabited

/-- What reads a value of type `α` from a place on. -/
abbrev Reader (α : Type) := Cursor → Option (α × Cursor)

namespace Cursor

/-- The span from one place to a later one. -/
def spanTo (start stop : Cursor) : Span :=
  { offset := start.offset, length := stop.offset - start.offset }

/-- The leading characters with a property, and the place behind them. -/
def takeWhile (p : Char → Bool) (cur : Cursor) : List Char × Cursor :=
  let taken := cur.rest.takeWhile p
  (taken, { offset := cur.offset + byteLength taken, rest := cur.rest.dropWhile p })

/-- The place behind a given text. -/
def expect? (text : List Char) (cur : Cursor) : Option Cursor :=
  (Text.dropPrefixChars? text cur.rest).map fun rest =>
    { offset := cur.offset + byteLength text, rest }

end Cursor

/-- Whether `c` separates the parts of a line. -/
def isLineBlank (c : Char) : Bool := c == ' ' || c == '\t'

/-- Whether `c` may stand in a comment: no control other than the tab. -/
def isCommentChar (c : Char) : Bool :=
  c == '\t' || (' ' ≤ c && c != '\x7f')

/-- The place behind leading blanks. -/
def skipBlanks (cur : Cursor) : Cursor :=
  (cur.takeWhile isLineBlank).2

/-- The place behind a comment, if there is one; the end of its line is not part of it. -/
def skipComment (cur : Cursor) : Cursor :=
  match cur.rest with
  | '#' :: rest => (Cursor.takeWhile isCommentChar { offset := cur.offset + 1, rest }).2
  | _ => cur

/-- The place behind the end of a line; the end of the document ends a line. -/
def newline? (cur : Cursor) : Option Cursor :=
  match cur.rest with
  | [] => some cur
  | '\n' :: rest => some { offset := cur.offset + 1, rest }
  | '\r' :: '\n' :: rest => some { offset := cur.offset + 2, rest }
  | _ => none

/-- The place behind the rest of a line that holds no more than blanks and a comment. -/
def lineEnd? (cur : Cursor) : Option Cursor :=
  newline? (skipComment (skipBlanks cur))

/-- The place behind blanks, comments and ends of lines, starting outside or inside a comment. -/
def skipLayoutFrom : (inComment : Bool) → (offset : Nat) → List Char → Option Cursor
  | _, offset, [] => some { offset, rest := [] }
  | _, offset, '\n' :: cs => skipLayoutFrom false (offset + 1) cs
  | _, offset, '\r' :: '\n' :: cs => skipLayoutFrom false (offset + 2) cs
  | true, offset, c :: cs =>
    if isCommentChar c then skipLayoutFrom true (offset + c.utf8Size) cs else none
  | false, offset, c :: cs =>
    if isLineBlank c then skipLayoutFrom false (offset + 1) cs
    else if c == '#' then skipLayoutFrom true (offset + 1) cs
    else some { offset, rest := c :: cs }

/-- The place behind blanks, comments and ends of lines. -/
def skipLayout (cur : Cursor) : Option Cursor :=
  skipLayoutFrom false cur.offset cur.rest

end Bindery.Document

import Bindery.Decimal.Basic
import Bindery.Document.Cursor

/-!
# Quoted texts

The four forms of a text: in double quotes with escapes or in single quotes without, each on one
line or over several. Reading first finds the closing quotes, then decodes what is between.

## Main definitions

* `quotedLine`, `quotedText`: a text of one line, and a text of any form
* `decodeEscapes`, `decodePlain`: what the characters between the quotes stand for
-/

namespace Bindery.Document

/-! ## Escapes -/

/-- Whether `c` may stand in a text as itself: no control other than the tab. -/
def isTextChar (c : Char) : Bool := isCommentChar c

/-- What a backslash and one character stand for. -/
def shortEscape? : Char → Option Char
  | 'b' => some '\x08'
  | 't' => some '\t'
  | 'n' => some '\n'
  | 'f' => some '\x0c'
  | 'r' => some '\r'
  | 'e' => some '\x1b'
  | '"' => some '"'
  | '\\' => some '\\'
  | _ => none

/-- The character with a code given in hexadecimal digits. -/
def charOfHex? (digits : List Char) : Option Char :=
  if digits.all Decimal.isHexDigit then
    let n := Decimal.ofDigits 16 digits
    if n.isValidChar then some (Char.ofNat n) else none
  else none

/-- Where decoding stands with respect to a backslash at the end of a line, which takes with it the
layout up to the next character. -/
inductive Fold where
  /-- No such backslash is at work. -/
  | none
  /-- Blanks may follow the backslash, and then a line has to end. -/
  | opened
  /-- The line has ended; layout is dropped. -/
  | dropping
  deriving DecidableEq, Repr, Inhabited

/-- What the characters between double quotes stand for. Only a text of several lines may hold ends
of lines. -/
def decodeEscapes (multiline : Bool) : Fold → List Char → Option (List Char)
  | .opened, [] => none
  | _, [] => some []
  | .opened, '\n' :: cs => decodeEscapes multiline .dropping cs
  | .opened, '\r' :: '\n' :: cs => decodeEscapes multiline .dropping cs
  | .opened, c :: cs => if isLineBlank c then decodeEscapes multiline .opened cs else none
  | .dropping, ' ' :: cs => decodeEscapes multiline .dropping cs
  | .dropping, '\t' :: cs => decodeEscapes multiline .dropping cs
  | .dropping, '\n' :: cs => decodeEscapes multiline .dropping cs
  | .dropping, '\r' :: '\n' :: cs => decodeEscapes multiline .dropping cs
  | _, ['\\'] => none
  | _, '\\' :: c :: cs =>
    match shortEscape? c with
    | some d => (decodeEscapes multiline .none cs).map (d :: ·)
    | none =>
      match c, cs with
      | 'x', a :: b :: cs => do
        return (← charOfHex? [a, b]) :: (← decodeEscapes multiline .none cs)
      | 'u', a :: b :: c :: d :: cs => do
        return (← charOfHex? [a, b, c, d]) :: (← decodeEscapes multiline .none cs)
      | 'U', a :: b :: c :: d :: e :: f :: g :: h :: cs => do
        return (← charOfHex? [a, b, c, d, e, f, g, h]) :: (← decodeEscapes multiline .none cs)
      | '\n', cs => if multiline then decodeEscapes multiline .dropping cs else none
      | '\r', '\n' :: cs => if multiline then decodeEscapes multiline .dropping cs else none
      | c, cs =>
        if multiline && isLineBlank c then decodeEscapes multiline .opened cs else none
  | _, '\r' :: '\n' :: cs =>
    if multiline then (decodeEscapes multiline .none cs).map ('\r' :: '\n' :: ·) else none
  | _, c :: cs =>
    if isTextChar c || (multiline && c == '\n') then
      (decodeEscapes multiline .none cs).map (c :: ·)
    else none

/-- What the characters between single quotes stand for: themselves. -/
def decodePlain (multiline : Bool) : List Char → Option (List Char)
  | [] => some []
  | '\r' :: '\n' :: cs =>
    if multiline then (decodePlain multiline cs).map ('\r' :: '\n' :: ·) else none
  | c :: cs =>
    if isTextChar c || (multiline && c == '\n') then (decodePlain multiline cs).map (c :: ·)
    else none

/-! ## Closing quotes -/

/-- The characters up to a closing quote, and those behind it. With `escapes`, a character behind a
backslash closes nothing. -/
def untilQuote (quote : Char) (escapes : Bool) : List Char → Option (List Char × List Char)
  | [] => none
  | [c] => if c == quote then some ([], []) else none
  | c :: d :: cs =>
    if c == quote then some ([], d :: cs)
    else if escapes && c == '\\' then
      (untilQuote quote escapes cs).map fun r => (c :: d :: r.1, r.2)
    else (untilQuote quote escapes (d :: cs)).map fun r => (c :: r.1, r.2)

/-- The characters up to three closing quotes, and those behind them. Up to two more quotes in front
of the closing ones belong to the text. -/
def untilQuotes (quote : Char) (escapes : Bool) : List Char → Option (List Char × List Char)
  | c :: d :: e :: cs =>
    if c == quote && d == quote && e == quote then
      match cs with
      | f :: g :: cs =>
        if f == quote && g == quote then some ([quote, quote], cs)
        else if f == quote then some ([quote], g :: cs)
        else some ([], f :: g :: cs)
      | [f] => if f == quote then some ([quote], []) else some ([], [f])
      | [] => some ([], [])
    else if escapes && c == '\\' then
      (untilQuotes quote escapes (e :: cs)).map fun r => (c :: d :: r.1, r.2)
    else (untilQuotes quote escapes (d :: e :: cs)).map fun r => (c :: r.1, r.2)
  | _ => none

/-- The text without an end of line in front. -/
def dropFirstNewline : List Char → List Char
  | '\n' :: cs => cs
  | '\r' :: '\n' :: cs => cs
  | cs => cs

/-! ## The four forms -/

/-- The quotes of a text, and whether a backslash escapes between them. -/
def quoteStyle? (cs : List Char) : Option (Char × Bool) :=
  match cs with
  | '"' :: _ => some ('"', true)
  | '\'' :: _ => some ('\'', false)
  | _ => none

/-- What stands for itself or is escaped between quotes. -/
def decode (escapes multiline : Bool) (raw : List Char) : Option (List Char) :=
  if escapes then decodeEscapes multiline .none raw else decodePlain multiline raw

/-- A text in single or double quotes, on one line. -/
def quotedLine : Reader String := fun cur => do
  let (quote, escapes) ← quoteStyle? cur.rest
  let (raw, rest) ← untilQuote quote escapes (cur.rest.drop 1)
  let value ← decode escapes false raw
  return (String.ofList value, { offset := cur.offset + Text.byteLength raw + 2, rest })

/-- A text in three single or double quotes, over any number of lines. -/
def quotedLines : Reader String := fun cur => do
  let (quote, escapes) ← quoteStyle? cur.rest
  let (raw, rest) ← untilQuotes quote escapes (cur.rest.drop 3)
  let value ← decode escapes true (dropFirstNewline raw)
  return (String.ofList value, { offset := cur.offset + Text.byteLength raw + 6, rest })

/-- Whether a text opens with three quotes. -/
def opensLines (cs : List Char) : Bool :=
  cs.take 3 == ['"', '"', '"'] || cs.take 3 == ['\'', '\'', '\'']

/-- A text of any form. -/
def quotedText : Reader String := fun cur =>
  if opensLines cur.rest then quotedLines cur else quotedLine cur

end Bindery.Document

import Bindery.Document.Quoted
import Bindery.Document.Scalar
import Bindery.Document.Tables

/-!
# Documents

The grammar of documents: keys, values, and lines. Values nest in arrays and inline tables, at most
`maxDepth` deep. Each reader that loops or nests has a bound on its steps as its first argument.
Between two steps that consume a character there is at most one that does not, so that twice the
number of characters is enough.

## Main definitions

* `simpleKey`, `dottedKey`, `valueAt`: the parts of a line
* `statements`: the lines of a document
* `parse?`: the table that a document denotes
-/

namespace Bindery.Document

open Text (Span)

/-- How deep arrays and inline tables may nest, and how many parts a key may have. -/
def maxDepth : Nat := 80

/-! ## Keys -/

/-- Whether `c` may stand in a key without quotes. -/
def isBareKeyChar (c : Char) : Bool :=
  c.isAlphanum || c == '_' || c == '-'

/-- A key that is one word, or quoted on one line. -/
def simpleKey : Reader Key := fun cur =>
  match quoteStyle? cur.rest with
  | some _ => do
    let (text, next) ← quotedLine cur
    return ({ text, span := cur.spanTo next }, next)
  | none =>
    let (word, next) := cur.takeWhile isBareKeyChar
    if word.isEmpty then none
    else some ({ text := String.ofList word, span := cur.spanTo next }, next)

/-- The parts of a key between dots: all but the last, and the last. Blanks behind them are taken
along. -/
def keyParts : (steps : Nat) → Reader (List Key × Key)
  | 0, _ => none
  | steps + 1, cur => do
    let (key, next) ← simpleKey cur
    let next := skipBlanks next
    match next.expect? ['.'] with
    | none => return (([], key), next)
    | some next =>
      let ((path, last), next) ← keyParts steps (skipBlanks next)
      return ((key :: path, last), next)

/-- A dotted key, of at most `maxDepth` parts. -/
def dottedKey (steps : Nat) : Reader (List Key × Key) := fun cur => do
  let ((path, last), next) ← keyParts steps cur
  if path.length < maxDepth then return ((path, last), next) else none

/-! ## Values -/

mutual

/-- A value inside `depth` arrays and inline tables. -/
def valueAt : (steps depth : Nat) → Reader Node
  | 0, _, _ => none
  | steps + 1, depth, cur =>
    match cur.rest with
    | '[' :: rest =>
      if depth < maxDepth then do
        let (items, next) ← itemsAt steps (depth + 1) { offset := cur.offset + 1, rest }
        return (.array (cur.spanTo next) .inline items, next)
      else none
    | '\x7b' :: rest =>
      if depth < maxDepth then do
        let (entries, next) ← entriesAt steps (depth + 1) [] { offset := cur.offset + 1, rest }
        return (.table (cur.spanTo next) .inline entries, next)
      else none
    | rest =>
      match quoteStyle? rest with
      | some _ => do
        let (text, next) ← quotedText cur
        return (.string (cur.spanTo next) text, next)
      | none => scalar cur

/-- The items of an array from behind its bracket or a comma on, closing bracket included. -/
def itemsAt : (steps depth : Nat) → Reader (List Node)
  | 0, _, _ => none
  | steps + 1, depth, cur => do
    let cur ← skipLayout cur
    match cur.expect? [']'] with
    | some next => return ([], next)
    | none =>
      let (item, next) ← valueAt steps depth cur
      let next ← skipLayout next
      match next.expect? [','] with
      | some next =>
        let (items, next) ← itemsAt steps depth next
        return (item :: items, next)
      | none =>
        let next ← next.expect? [']']
        return ([item], next)

/-- The entries of an inline table from behind its brace or a comma on, closing brace included. -/
def entriesAt : (steps depth : Nat) → Entries → Reader Entries
  | 0, _, _, _ => none
  | steps + 1, depth, entries, cur => do
    let cur ← skipLayout cur
    match cur.expect? ['\x7d'] with
    | some next => return (entries, next)
    | none =>
      let ((path, key), next) ← dottedKey steps cur
      let next ← (← skipLayout next).expect? ['=']
      let (value, next) ← valueAt steps depth (← skipLayout next)
      let entries ← entries.assign? .inline { path, key, value }
      let next ← skipLayout next
      match next.expect? [','] with
      | some next => entriesAt steps depth entries next
      | none =>
        let next ← next.expect? ['\x7d']
        return (entries, next)

end

/-! ## Lines -/

/-- An assignment, up to the end of its value. -/
def assignment (steps : Nat) : Reader Assignment := fun cur => do
  let ((path, key), next) ← dottedKey steps cur
  let next ← next.expect? ['=']
  let (value, next) ← valueAt steps 0 (skipBlanks next)
  return ({ path, key, value }, next)

/-- A header: a key in single or double brackets. -/
def header (steps : Nat) : Reader Header := fun cur => do
  let isItem := (cur.expect? ['[', '[']).isSome
  let start ← cur.expect? (if isItem then ['[', '['] else ['['])
  let ((path, key), next) ← dottedKey steps (skipBlanks start)
  let next ← next.expect? (if isItem then [']', ']'] else [']'])
  return ({ span := cur.spanTo next, isItem, path, key }, next)

/-- The statements of a document: the assignments in front of the first header, then sections. -/
def statements : (steps : Nat) → Cursor → Option (List Assignment × List Section)
  | 0, _ => none
  | steps + 1, cur => do
    let cur := skipBlanks cur
    match cur.rest with
    | [] => return ([], [])
    | '[' :: _ =>
      let (header, next) ← header steps cur
      let (body, sections) ← statements steps (← lineEnd? next)
      return ([], { header, body } :: sections)
    | c :: _ =>
      if c == '#' || c == '\n' || c == '\r' then statements steps (← lineEnd? cur)
      else
        let (a, next) ← assignment steps cur
        let (body, sections) ← statements steps (← lineEnd? next)
        return (a :: body, sections)

/-- The place where a document starts: behind a byte order mark, if there is one. -/
def start (text : List Char) : Cursor :=
  match text with
  | '\ufeff' :: rest => { offset := 3, rest }
  | rest => { offset := 0, rest }

/-- The entries of the table that a document denotes. -/
def parse? (text : String) : Option Entries := do
  let cur := start text.toList
  let (front, sections) ← statements (2 * cur.rest.length + 2) cur
  Entries.ofSections? front sections

end Bindery.Document

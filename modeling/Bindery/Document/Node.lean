import Bindery.Decimal.Basic
import Bindery.Text.Span

/-!
# Document nodes

The values of a document, each with its place in the text. Tables and arrays remember how they were
written, because that decides what may be added to them later.

## Main definitions

* `Node`: a value with its place
* `Entries.insert`, `Entries.find?`: the entries of a table, in ascending order of their keys
-/

namespace Bindery.Document

open Text (Span)

/-- A key with its place, quotes included. -/
structure Key where
  /-- The key itself. -/
  text : String
  /-- Where it is written. -/
  span : Span
  deriving DecidableEq, Repr, Inhabited

/-- How a table came about. -/
inductive TableOrigin where
  /-- It is the document, or has a header of its own. -/
  | header
  /-- It was implied by a longer header. -/
  | implied
  /-- It was implied by a dotted key. -/
  | dotted
  /-- It is written in braces. -/
  | inline
  deriving DecidableEq, Repr, Inhabited

/-- Whether a table came about without being written itself. -/
def TableOrigin.isImplicit : TableOrigin → Bool
  | implied | dotted => true
  | header | inline => false

/-- How an array came about. -/
inductive ArrayOrigin where
  /-- Its items are tables with a header each. -/
  | headers
  /-- It is written in brackets. -/
  | inline
  deriving DecidableEq, Repr, Inhabited

/-- A value with its place in the text. -/
inductive Node where
  | string (span : Span) (text : String)
  /-- An integer; without a value if it is written as one but is no number. -/
  | integer (span : Span) (value : Option Int)
  | float (span : Span) (value : Decimal.Literal)
  | boolean (span : Span) (value : Bool)
  | datetime (span : Span)
  | array (span : Span) (origin : ArrayOrigin) (items : List Node)
  | table (span : Span) (origin : TableOrigin) (entries : List (Key × Node))
  deriving Repr, Inhabited

/-- Where a value is written. -/
def Node.span : Node → Span
  | string span _ => span
  | integer span _ => span
  | float span _ => span
  | boolean span _ => span
  | datetime span => span
  | array span _ _ => span
  | table span _ _ => span

/-- The entries of a table, in ascending order of their keys. -/
abbrev Entries := List (Key × Node)

namespace Entries

/-- The value of a key. -/
def find? (entries : Entries) (name : String) : Option Node :=
  (List.find? (fun e => e.1.text == name) entries).map Prod.snd

/-- The entries without those of a key. -/
def erase (entries : Entries) (name : String) : Entries :=
  entries.filter fun e => e.1.text != name

/-- The entries with one more, which goes in front of the first greater key. -/
def insert (key : Key) (value : Node) : Entries → Entries
  | [] => [(key, value)]
  | e :: es =>
    if Text.precedes key.text e.1.text then (key, value) :: e :: es else e :: insert key value es

/-- The entries with the value of a key replaced; the key keeps its place. -/
def replace (entries : Entries) (name : String) (value : Node) : Entries :=
  entries.map fun e => if e.1.text == name then (e.1, value) else e

end Entries

end Bindery.Document

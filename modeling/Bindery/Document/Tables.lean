import Bindery.Document.Node

/-!
# Building tables

What a document says, one statement after the other, and the tables that follow from it. A table may
be added to as long as that does not define a part of it twice: a header opens a table once, a
dotted key extends only tables that dotted keys made, and a table or array written in place is
complete.

## Main definitions

* `Assignment`, `Header`, `Section`: the statements of a document
* `Entries.descend?`: a change at the end of a path of keys
* `Entries.assign?`, `Entries.addSection?`: the effect of a statement
-/

namespace Bindery.Document

open Text (Span)

/-- A value for a dotted key. -/
structure Assignment where
  /-- All parts of the key but the last. -/
  path : List Key
  /-- The last part of the key. -/
  key : Key
  /-- The value. -/
  value : Node
  deriving Repr, Inhabited

/-- A header line. -/
structure Header where
  /-- Where the header is written, brackets included. -/
  span : Span
  /-- Whether the header opens an item of an array of tables. -/
  isItem : Bool
  /-- All parts of the key but the last. -/
  path : List Key
  /-- The last part of the key. -/
  key : Key
  deriving Repr, Inhabited

/-- A header with the assignments below it. -/
structure Section where
  /-- The header. -/
  header : Header
  /-- The assignments, in order. -/
  body : List Assignment
  deriving Repr, Inhabited

namespace Entries

/-- A change to the entries of the table at the end of a path. Tables that are missing on the way
are made, by the header or the dotted key that the path is part of. A path goes into the last item
of an array of tables, and into no value that is written in place. A dotted key does not go into a
table with a header of its own. -/
def descend? (byDottedKey : Bool) (change : TableOrigin → Entries → Option Entries) :
    List Key → TableOrigin → Entries → Option Entries
  | [], origin, entries => change origin entries
  | key :: path, _, entries =>
    match entries.find? key.text with
    | none => do
      let origin : TableOrigin := if byDottedKey then .dotted else .implied
      let inner ← descend? byDottedKey change path origin []
      return entries.insert key (.table key.span origin inner)
    | some (.table span origin inner) =>
      if origin == .inline || (byDottedKey && !origin.isImplicit) then none
      else do
        let inner ← descend? byDottedKey change path origin inner
        return entries.replace key.text (.table span origin inner)
    | some (.array span .headers items) =>
      match items.getLast? with
      | some (.table itemSpan origin inner) => do
        let inner ← descend? byDottedKey change path origin inner
        return entries.replace key.text
          (.array span .headers (items.dropLast ++ [.table itemSpan origin inner]))
      | _ => none
    | some _ => none

/-- The entries with an assignment made in a table of the given origin. The table that takes the
value has to come from dotted keys exactly if the key is dotted. -/
def assign? (origin : TableOrigin) (entries : Entries) (a : Assignment) : Option Entries :=
  descend? true
    (fun target inner =>
      if (target == .dotted) == a.path.isEmpty then none
      else if (inner.find? a.key.text).isSome then none
      else some (inner.insert a.key a.value))
    a.path origin entries

/-- The entries with assignments made one after the other in a table of the given origin. -/
def assignAll? (origin : TableOrigin) (entries : Entries) (as : List Assignment) : Option Entries :=
  as.foldlM (assign? origin) entries

/-- The entries with a table added. A table that a longer header implied gets its header now. -/
def addTable? (entries : Entries) (span : Span) (key : Key) (body : List Assignment) :
    Option Entries :=
  match entries.find? key.text with
  | none => do
    return entries.insert key (.table span .header (← assignAll? .header [] body))
  | some (.table _ .implied inner) => do
    let inner ← assignAll? .header inner body
    return (entries.erase key.text).insert key (.table span .header inner)
  | some _ => none

/-- The entries with an item added to an array of tables, which the first item makes. -/
def addItem? (entries : Entries) (span : Span) (key : Key) (body : List Assignment) :
    Option Entries := do
  let item : Node := .table span .header (← assignAll? .header [] body)
  match entries.find? key.text with
  | none => return entries.insert key (.array span .headers [item])
  | some (.array whole .headers items) =>
    return entries.replace key.text (.array whole .headers (items ++ [item]))
  | some _ => none

/-- The entries of a document with a section added. -/
def addSection? (entries : Entries) (s : Section) : Option Entries :=
  descend? false
    (fun _ inner =>
      if s.header.isItem then inner.addItem? s.header.span s.header.key s.body
      else inner.addTable? s.header.span s.header.key s.body)
    s.header.path .header entries

/-- The entries of a document: the assignments in front of the first header, then the sections. -/
def ofSections? (front : List Assignment) (sections : List Section) : Option Entries := do
  let entries ← assignAll? .header [] front
  sections.foldlM addSection? entries

end Entries

end Bindery.Document

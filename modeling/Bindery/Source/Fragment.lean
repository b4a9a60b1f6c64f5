/-!
# Source fragments

Generated source as a tree: lines, blank lines, and blocks whose bodies are one level deeper than
their headers. A fragment says nothing about how deep it stands itself.
-/

namespace Bindery.Source

/-- A piece of source. -/
inductive Fragment where
  /-- A line. -/
  | line (text : String)
  /-- A line without anything on it, not even indentation. -/
  | blank
  /-- A header line, a body one level deeper, and a closing line unless something else follows. -/
  | block (header : String) (body : List Fragment) (close : Option String)
  /-- Fragments one after the other. -/
  | sequence (items : List Fragment)
  /-- A documentation comment of one line. -/
  | docComment (text : String)
  deriving Repr, Inhabited, BEq

end Bindery.Source

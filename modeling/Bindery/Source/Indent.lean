/-!
# Indentation

What stands in front of a line for each level of nesting.
-/

namespace Bindery.Source

/-- An indentation style. -/
inductive Indent where
  /-- A number of spaces. -/
  | spaces (width : Nat)
  /-- A tab. -/
  | tab
  deriving DecidableEq, Repr, Inhabited

namespace Indent

/-- The style of generated source. -/
def standard : Indent := .spaces 4

/-- The narrow style. -/
def compact : Indent := .spaces 2

/-- The text of one level. The widths in use are 2, 4 and 8; any other stands for 4. -/
def unit : Indent → String
  | .spaces 2 => "  "
  | .spaces 8 => "        "
  | .spaces _ => "    "
  | .tab => "\t"

end Indent

end Bindery.Source

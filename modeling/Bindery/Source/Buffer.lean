import Bindery.Source.Fragment
import Bindery.Source.Indent

/-!
# Source buffers

A text under construction with a current level of nesting. Lines go to the end, indented for the
level.

## Main definitions

* `Buffer.pushLine`, `Buffer.pushBlank`, `Buffer.pushDocComment`: append a line
* `Buffer.indented`, `Buffer.dedented`: change the level, which stops at zero
* `Buffer.apply`, `Buffer.applyAll`: append fragments
-/

namespace Bindery.Source

/-- A text that grows by lines. -/
structure Buffer where
  /-- The style of indentation. -/
  indent : Indent := .standard
  /-- The current level of nesting. -/
  level : Nat := 0
  /-- The text so far. -/
  text : String := ""
  deriving Repr, Inhabited, DecidableEq

namespace Buffer

/-- The indentation of a line at a level. -/
def indentation (indent : Indent) (level : Nat) : String :=
  String.join (List.replicate level indent.unit)

/-- Append a line, indented for the current level. -/
def pushLine (b : Buffer) (line : String) : Buffer :=
  { b with text := b.text ++ indentation b.indent b.level ++ line ++ "\n" }

/-- Append a blank line. -/
def pushBlank (b : Buffer) : Buffer :=
  { b with text := b.text ++ "\n" }

/-- Append a documentation comment. -/
def pushDocComment (b : Buffer) (doc : String) : Buffer :=
  b.pushLine ("/** " ++ doc ++ " */")

/-- One level deeper. -/
def indented (b : Buffer) : Buffer := { b with level := b.level + 1 }

/-- One level less deep; the outermost level stays. -/
def dedented (b : Buffer) : Buffer := { b with level := b.level - 1 }

/-- Append the closing line of a block, if it has one. -/
def pushClose (b : Buffer) : Option String → Buffer
  | some close => b.pushLine close
  | none => b

mutual

/-- Append a fragment. -/
def apply (b : Buffer) : Fragment → Buffer
  | .line text => b.pushLine text
  | .blank => b.pushBlank
  | .block header body close =>
    ((applyAll (b.pushLine header).indented body).dedented).pushClose close
  | .sequence items => applyAll b items
  | .docComment text => b.pushDocComment text

/-- Append fragments one after the other. -/
def applyAll (b : Buffer) : List Fragment → Buffer
  | [] => b
  | f :: fs => applyAll (apply b f) fs

end

end Buffer

/-- The text of fragments that stand at the outermost level. -/
def textOf (indent : Indent) (fragments : List Fragment) : String :=
  (Buffer.applyAll { indent } fragments).text

end Bindery.Source

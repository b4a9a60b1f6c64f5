import Bindery.Proofs.Text.Dotted
import Bindery.Source.Buffer

/-!
# Source as lines

A fragment is a sequence of lines, each at its own level of nesting, whatever the style of
indentation. A buffer appends the text of these lines and comes back to the level where it was. If
no line breaks, the text gives the lines back.

## Main definitions

* `ofLines`, `linesOf`, `endedLines`: a text made of lines, and the lines of a text
* `Line`, `Line.render`: a line of source, and its text in a style of indentation
* `Fragment.lines`, `Fragment.allLines`: the lines of fragments

## Main results

* `Buffer.applyAll_eq`: fragments append the text of their lines, and the level stays
* `textOf_eq`: the text of fragments is the text of their lines
* `endedLines_ofLines`, `Line.endedLines_renderAll`: lines that do not break are read back from
  their text
-/

namespace Bindery.Source

/-! ## Texts as lines -/

/-- The text of some lines, each with its end. -/
def ofLines (lines : List String) : String := String.join (lines.map (· ++ "\n"))

@[simp] theorem ofLines_nil : ofLines [] = "" := rfl

@[simp] theorem ofLines_cons (line : String) (lines : List String) :
    ofLines (line :: lines) = line ++ "\n" ++ ofLines lines := by
  rw [ofLines, List.map_cons, String.join_cons, ofLines]

/-- The lines of a text. -/
def linesOf (text : String) : List String :=
  (Text.splitOn '\n' text.toList).map String.ofList

/-- The lines of a text that are ended. What stands behind the last end of line is none of them. -/
def endedLines (text : String) : List String := (linesOf text).dropLast

theorem linesOf_append_lineEnd {line : String} (h : '\n' ∉ line.toList) (text : String) :
    linesOf (line ++ "\n" ++ text) = line :: linesOf text := by
  rw [linesOf, String.toList_append, String.toList_append, List.append_assoc]
  change (Text.splitOn '\n' (line.toList ++ '\n' :: text.toList)).map String.ofList = _
  rw [Text.splitOn_append_cons, Text.splitOn_of_notMem h, List.singleton_append, List.map_cons,
    String.ofList_toList, linesOf]

theorem linesOf_ofLines {lines : List String} (h : ∀ line ∈ lines, '\n' ∉ line.toList) :
    linesOf (ofLines lines) = lines ++ [""] := by
  induction lines with
  | nil => rfl
  | cons line lines ih =>
    rw [List.forall_mem_cons] at h
    rw [ofLines_cons, linesOf_append_lineEnd h.1, ih h.2, List.cons_append]

/-- Lines that do not break are read back from their text. -/
theorem endedLines_ofLines {lines : List String} (h : ∀ line ∈ lines, '\n' ∉ line.toList) :
    endedLines (ofLines lines) = lines := by
  rw [endedLines, linesOf_ofLines h, List.dropLast_concat]

/-! ## Lines of source -/

/-- A line of source. -/
inductive Line where
  /-- A line without anything on it. -/
  | blank
  /-- A text at a level of nesting. -/
  | code (level : Nat) (text : String)
  deriving DecidableEq, Repr, Inhabited

namespace Line

/-- The text of a line, without its end. -/
def render (indent : Indent) : Line → String
  | blank => ""
  | code level text => Buffer.indentation indent level ++ text

/-- The text of lines, each with its end. -/
def renderAll (indent : Indent) (lines : List Line) : String :=
  String.join (lines.map fun line => line.render indent ++ "\n")

theorem renderAll_eq_ofLines (indent : Indent) (lines : List Line) :
    renderAll indent lines = ofLines (lines.map (render indent)) := by
  rw [renderAll, ofLines, List.map_map]
  rfl

@[simp] theorem renderAll_nil (indent : Indent) : renderAll indent [] = "" := rfl

@[simp] theorem renderAll_cons (indent : Indent) (line : Line) (lines : List Line) :
    renderAll indent (line :: lines) = line.render indent ++ "\n" ++ renderAll indent lines := by
  rw [renderAll, List.map_cons, String.join_cons, renderAll]

@[simp] theorem renderAll_append (indent : Indent) (lines more : List Line) :
    renderAll indent (lines ++ more) = renderAll indent lines ++ renderAll indent more := by
  rw [renderAll, List.map_append, String.join_append, renderAll, renderAll]

end Line

namespace Fragment

mutual

/-- The lines of a fragment that stands at a level. -/
def lines (level : Nat) : Fragment → List Line
  | .line text => [.code level text]
  | .blank => [.blank]
  | .block header body close =>
    .code level header :: allLines (level + 1) body ++ (close.map (.code level)).toList
  | .sequence items => allLines level items
  | .docComment text => [.code level ("/** " ++ text ++ " */")]

/-- The lines of fragments one after the other. -/
def allLines (level : Nat) : List Fragment → List Line
  | [] => []
  | f :: fs => lines level f ++ allLines level fs

end

theorem allLines_append (level : Nat) (fs gs : List Fragment) :
    allLines level (fs ++ gs) = allLines level fs ++ allLines level gs := by
  induction fs with
  | nil => rfl
  | cons f fs ih => rw [List.cons_append, allLines, allLines, ih, List.append_assoc]

end Fragment

namespace Buffer

/-- The buffer with the text of some lines at its end. -/
def appendLines (b : Buffer) (lines : List Line) : Buffer :=
  { b with text := b.text ++ Line.renderAll b.indent lines }

@[simp] theorem appendLines_nil (b : Buffer) : b.appendLines [] = b := by
  simp [appendLines]

theorem appendLines_append (b : Buffer) (lines more : List Line) :
    b.appendLines (lines ++ more) = (b.appendLines lines).appendLines more := by
  simp [appendLines, String.append_assoc]

theorem pushLine_eq (b : Buffer) (text : String) :
    b.pushLine text = b.appendLines [.code b.level text] := by
  simp [pushLine, appendLines, Line.render, String.append_assoc]

theorem pushBlank_eq (b : Buffer) : b.pushBlank = b.appendLines [.blank] := by
  simp [pushBlank, appendLines, Line.render]

theorem pushClose_eq (b : Buffer) (close : Option String) :
    b.pushClose close = b.appendLines (close.map (.code b.level)).toList := by
  cases close with
  | none => simp [pushClose]
  | some text => exact b.pushLine_eq text

mutual

/-- A fragment appends the text of its lines, and the level stays. -/
theorem apply_eq (b : Buffer) : ∀ f : Fragment, b.apply f = b.appendLines (f.lines b.level)
  | .line text => by rw [apply, pushLine_eq, Fragment.lines]
  | .blank => by rw [apply, pushBlank_eq, Fragment.lines]
  | .block header body close => by
    have hbody := applyAll_eq (b.pushLine header).indented body
    rw [apply, hbody, pushLine_eq, pushClose_eq, Fragment.lines]
    simp [appendLines, indented, dedented, String.append_assoc]
  | .sequence items => by rw [apply, applyAll_eq, Fragment.lines]
  | .docComment text => by rw [apply, pushDocComment, pushLine_eq, Fragment.lines]

/-- Fragments append the text of their lines, and the level stays. -/
theorem applyAll_eq (b : Buffer) :
    ∀ fs : List Fragment, b.applyAll fs = b.appendLines (Fragment.allLines b.level fs)
  | [] => by rw [applyAll, Fragment.allLines, appendLines_nil]
  | f :: fs => by
    rw [applyAll, apply_eq b f, applyAll_eq _ fs, Fragment.allLines, appendLines_append]
    rfl

end

@[simp] theorem indentation_zero (indent : Indent) : indentation indent 0 = "" := rfl

end Buffer

/-- The text of fragments is the text of their lines. -/
theorem textOf_eq (indent : Indent) (fragments : List Fragment) :
    textOf indent fragments = Line.renderAll indent (Fragment.allLines 0 fragments) := by
  rw [textOf, Buffer.applyAll_eq, Buffer.appendLines, String.empty_append]

/-! ## Recovering lines from their text -/

theorem Indent.unit_mem (indent : Indent) :
    indent.unit ∈ ["  ", "        ", "    ", "\t"] := by
  simp only [Indent.unit]
  split <;> decide

theorem Indent.newline_notMem_unit (indent : Indent) : '\n' ∉ indent.unit.toList := by
  have h : ∀ unit ∈ ["  ", "        ", "    ", "\t"], '\n' ∉ unit.toList := by decide
  exact h indent.unit indent.unit_mem

theorem Buffer.newline_notMem_indentation (indent : Indent) (level : Nat) :
    '\n' ∉ (Buffer.indentation indent level).toList := by
  rw [Buffer.indentation, String.toList_join, List.mem_flatMap]
  rintro ⟨unit, hunit, hmem⟩
  rw [List.eq_of_mem_replicate hunit] at hmem
  exact indent.newline_notMem_unit hmem

namespace Line

/-- The line does not break: there is no end of line on it. -/
def IsWhole : Line → Prop
  | blank => True
  | code _ text => '\n' ∉ text.toList

theorem IsWhole.newline_notMem_render {line : Line} (h : line.IsWhole) (indent : Indent) :
    '\n' ∉ (line.render indent).toList := by
  cases line with
  | blank => simp [render]
  | code level text =>
    rw [render, String.toList_append, List.mem_append, not_or]
    exact ⟨Buffer.newline_notMem_indentation indent level, h⟩

/-- Lines that do not break are read back from their text. -/
theorem endedLines_renderAll {indent : Indent} {lines : List Line}
    (h : ∀ line ∈ lines, line.IsWhole) :
    endedLines (renderAll indent lines) = lines.map (render indent) := by
  rw [renderAll_eq_ofLines, endedLines_ofLines]
  rintro _ hline
  obtain ⟨line, hmem, rfl⟩ := List.mem_map.mp hline
  exact (h line hmem).newline_notMem_render indent

/-- A text of lines that do not break consists of the lines that are read back from it. -/
theorem ofLines_endedLines_renderAll {indent : Indent} {lines : List Line}
    (h : ∀ line ∈ lines, line.IsWhole) :
    ofLines (endedLines (renderAll indent lines)) = renderAll indent lines := by
  rw [endedLines_renderAll h, renderAll_eq_ofLines]

/-- Lines that do not break are recovered from their text, line by line. -/
theorem map_render_eq_of_renderAll_eq {indent : Indent} {lines lines' : List Line}
    (hlines : ∀ line ∈ lines, line.IsWhole) (hlines' : ∀ line ∈ lines', line.IsWhole)
    (h : renderAll indent lines = renderAll indent lines') :
    lines.map (render indent) = lines'.map (render indent) := by
  rw [← endedLines_renderAll hlines, ← endedLines_renderAll hlines', h]

end Line

end Bindery.Source

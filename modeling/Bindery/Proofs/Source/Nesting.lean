import Bindery.Proofs.Source.Lines

/-!
# Source at any level

What a fragment appends to a buffer depends on the fragment, the level and the style of indentation,
and on nothing else. Sequences leave no trace in it. A deeper level puts further units of
indentation in front of all lines but the blank ones, and another style replaces the units and
nothing behind them.

## Main definitions

* `Fragment.textAt`: the text that a fragment appends at a level
* `Fragment.strings`: the texts that a fragment holds
* `Fragment.allUngrouped`: fragments with all sequences taken apart
* `Line.deeper`: a line some levels further in

## Main results

* `Fragment.allLines_add`: the lines of fragments at a deeper level
* `Fragment.allLines_allUngrouped`: sequences do not show in the lines
* `Buffer.apply_at_level`: what a fragment does to a buffer, at any level and in any style
-/

namespace Bindery.Source

/-! ## Units of indentation -/

theorem Buffer.indentation_add (indent : Indent) (level k : Nat) :
    indentation indent (level + k) = indentation indent k ++ indentation indent level := by
  rw [indentation, Nat.add_comm, ← List.replicate_append_replicate, String.join_append]
  rfl

theorem Buffer.indentation_one (indent : Indent) : indentation indent 1 = indent.unit := by
  simp [indentation]

namespace Line

/-- The line some levels further in. A blank line has no level. -/
def deeper (k : Nat) : Line → Line
  | blank => blank
  | code level text => code (level + k) text

/-- A line that is moved in has further units of indentation, unless it is blank. -/
theorem render_deeper (indent : Indent) (k : Nat) (line : Line) :
    (line.deeper k).render indent =
      if line = blank then line.render indent
      else Buffer.indentation indent k ++ line.render indent := by
  cases line with
  | blank => rfl
  | code level text =>
    rw [deeper, render, Buffer.indentation_add, String.append_assoc, if_neg (by simp), render]

end Line

namespace Fragment

/-! ## Trees of fragments -/

/-- Induction on lists of fragments that goes into the first one. -/
@[elab_as_elim]
theorem list_induction {motive : List Fragment → Prop} (nil : motive [])
    (line : ∀ text fs, motive fs → motive (.line text :: fs))
    (blank : ∀ fs, motive fs → motive (.blank :: fs))
    (block : ∀ header body close fs, motive body → motive fs →
      motive (.block header body close :: fs))
    (sequence : ∀ items fs, motive items → motive fs → motive (.sequence items :: fs))
    (docComment : ∀ text fs, motive fs → motive (.docComment text :: fs)) : ∀ fs, motive fs
  | [] => nil
  | .line text :: fs => line text fs (list_induction nil line blank block sequence docComment fs)
  | .blank :: fs => blank fs (list_induction nil line blank block sequence docComment fs)
  | .block header body close :: fs =>
    block header body close fs (list_induction nil line blank block sequence docComment body)
      (list_induction nil line blank block sequence docComment fs)
  | .sequence items :: fs =>
    sequence items fs (list_induction nil line blank block sequence docComment items)
      (list_induction nil line blank block sequence docComment fs)
  | .docComment text :: fs =>
    docComment text fs (list_induction nil line blank block sequence docComment fs)
termination_by fs => sizeOf fs

theorem allLines_singleton (level : Nat) (f : Fragment) : allLines level [f] = f.lines level := by
  rw [allLines, allLines, List.append_nil]

/-- A deeper level moves every line in. -/
theorem allLines_add (level k : Nat) (fs : List Fragment) :
    allLines (level + k) fs = (allLines level fs).map (Line.deeper k) := by
  induction fs using list_induction generalizing level with
  | nil => rfl
  | line text fs ih => simp [allLines, lines, ih, Line.deeper]
  | blank fs ih => simp [allLines, lines, ih, Line.deeper]
  | block header body close fs ihBody ih =>
    have hbody := ihBody (level + 1)
    rw [Nat.add_right_comm] at hbody
    cases close <;> simp [allLines, lines, ih, hbody, Line.deeper]
  | sequence items fs ihItems ih => simp [allLines, lines, ih, ihItems]
  | docComment text fs ih => simp [allLines, lines, ih, Line.deeper]

/-! ## Sequences -/

mutual

/-- What is left of a fragment when all sequences in it are taken apart. -/
def ungrouped : Fragment → List Fragment
  | .line text => [.line text]
  | .blank => [.blank]
  | .block header body close => [.block header (allUngrouped body) close]
  | .sequence items => allUngrouped items
  | .docComment text => [.docComment text]

/-- What is left of fragments when all sequences in them are taken apart. -/
def allUngrouped : List Fragment → List Fragment
  | [] => []
  | f :: fs => ungrouped f ++ allUngrouped fs

end

/-- Sequences do not show in the lines. -/
theorem allLines_allUngrouped (level : Nat) (fs : List Fragment) :
    allLines level (allUngrouped fs) = allLines level fs := by
  induction fs using list_induction generalizing level with
  | nil => rfl
  | line text fs ih => simp [allUngrouped, ungrouped, allLines, lines, ih]
  | blank fs ih => simp [allUngrouped, ungrouped, allLines, lines, ih]
  | block header body close fs ihBody ih =>
    simp [allUngrouped, ungrouped, allLines, lines, ihBody, ih]
  | sequence items fs ihItems ih =>
    rw [allUngrouped, ungrouped, allLines_append, ihItems, ih, allLines, lines]
  | docComment text fs ih => simp [allUngrouped, ungrouped, allLines, lines, ih]

/-! ## Fragments that do not break their lines -/

mutual

/-- The texts that a fragment holds. -/
def strings : Fragment → List String
  | .line text => [text]
  | .blank => []
  | .block header body close => header :: allStrings body ++ close.toList
  | .sequence items => allStrings items
  | .docComment text => [text]

/-- The texts that fragments hold. -/
def allStrings : List Fragment → List String
  | [] => []
  | f :: fs => strings f ++ allStrings fs

end

theorem allStrings_singleton (f : Fragment) : allStrings [f] = f.strings := by
  rw [allStrings, allStrings, List.append_nil]

theorem allStrings_append (fs gs : List Fragment) :
    allStrings (fs ++ gs) = allStrings fs ++ allStrings gs := by
  induction fs with
  | nil => rfl
  | cons f fs ih => rw [List.cons_append, allStrings, allStrings, ih, List.append_assoc]

/-- If no text breaks, no line does. -/
theorem isWhole_of_allStrings {fs : List Fragment}
    (h : ∀ s ∈ allStrings fs, '\n' ∉ s.toList) (level : Nat) :
    ∀ line ∈ allLines level fs, line.IsWhole := by
  induction fs using list_induction generalizing level with
  | nil => exact List.forall_mem_nil _
  | line text fs ih =>
    simp only [allStrings, strings, List.cons_append, List.nil_append, List.forall_mem_cons] at h
    exact List.forall_mem_cons.mpr ⟨h.1, ih h.2 level⟩
  | blank fs ih => exact List.forall_mem_cons.mpr ⟨trivial, ih h level⟩
  | block header body close fs ihBody ih =>
    simp only [allStrings, strings, List.cons_append, List.append_assoc, List.forall_mem_cons,
      List.forall_mem_append, Option.mem_toList] at h
    obtain ⟨hheader, hbody, hclose, hfs⟩ := h
    simp only [allLines, lines, List.cons_append, List.append_assoc, List.forall_mem_cons,
      List.forall_mem_append, Option.mem_toList, Option.map_eq_some_iff]
    refine ⟨hheader, ihBody hbody _, ?_, ih hfs level⟩
    rintro _ ⟨text, htext, rfl⟩
    exact hclose text htext
  | sequence items fs ihItems ih =>
    rw [allStrings, strings, List.forall_mem_append] at h
    exact List.forall_mem_append.mpr ⟨ihItems h.1 level, ih h.2 level⟩
  | docComment text fs ih =>
    simp only [allStrings, strings, List.cons_append, List.nil_append, List.forall_mem_cons] at h
    refine List.forall_mem_cons.mpr ⟨?_, ih h.2 level⟩
    simpa [Line.IsWhole] using h.1

/-! ## The text of a fragment -/

/-- The text that a fragment appends at a level. -/
def textAt (indent : Indent) (level : Nat) (f : Fragment) : String :=
  (Buffer.apply { indent, level } f).text

theorem textAt_eq (indent : Indent) (level : Nat) (f : Fragment) :
    f.textAt indent level = Line.renderAll indent (f.lines level) := by
  rw [textAt, Buffer.apply_eq, Buffer.appendLines, String.empty_append]

section Whole

variable {f : Fragment} (h : ∀ s ∈ f.strings, '\n' ∉ s.toList)

include h

theorem isWhole_of_strings (level : Nat) : ∀ line ∈ f.lines level, line.IsWhole := by
  rw [← allStrings_singleton] at h
  rw [← allLines_singleton]
  exact isWhole_of_allStrings h level

/-- The lines that are read back from the text of a fragment, in any style. -/
theorem endedLines_textAt (indent : Indent) (level : Nat) :
    endedLines (f.textAt indent level) = (f.lines level).map (Line.render indent) := by
  rw [textAt_eq, Line.endedLines_renderAll (isWhole_of_strings h level)]

/-- The lines that are read back at a deeper level, from those at the level at hand. -/
theorem endedLines_textAt_add (indent : Indent) (level k : Nat) :
    endedLines (f.textAt indent (level + k)) =
      List.zipWith
        (fun line text => if line = .blank then text else Buffer.indentation indent k ++ text)
        (f.lines level) (endedLines (f.textAt indent level)) := by
  have hlines : f.lines (level + k) = (f.lines level).map (Line.deeper k) := by
    rw [← allLines_singleton, allLines_add, allLines_singleton]
  rw [endedLines_textAt h, endedLines_textAt h, hlines, List.map_map, List.zipWith_map_right,
    List.zipWith_self]
  exact List.map_congr_left fun line _ => line.render_deeper indent k

end Whole

end Fragment

/-- **A fragment looks the same at every level and in every style.** Applied to any buffer, a
fragment leaves the level, the style and the text so far as they are, and appends a text of its own.
Fragments that differ in sequences only do the same to any buffer. If no text in the fragment
breaks, what it appends consists of its lines. These are the same in every style but for the units
of indentation, one for each level of the line. Some levels deeper, as many further units stand in
front of every line but those that come from blank fragments. -/
theorem Buffer.apply_at_level (b : Buffer) (f : Fragment) :
    b.apply f = { b with text := b.text ++ f.textAt b.indent b.level } ∧
      (∀ fs gs, Fragment.allUngrouped fs = Fragment.allUngrouped gs →
        b.applyAll fs = b.applyAll gs) ∧
      ((∀ s ∈ f.strings, '\n' ∉ s.toList) → ∀ level,
        (∀ indent, f.textAt indent level = ofLines (endedLines (f.textAt indent level)) ∧
          endedLines (f.textAt indent level) = (f.lines level).map (Line.render indent)) ∧
        ∀ indent k, endedLines (f.textAt indent (level + k)) =
          List.zipWith
            (fun line text => if line = .blank then text else indentation indent k ++ text)
            (f.lines level) (endedLines (f.textAt indent level))) := by
  refine ⟨?_, fun fs gs hungrouped => ?_, fun h level => ⟨fun indent => ⟨?_, ?_⟩, ?_⟩⟩
  · rw [apply_eq, appendLines, Fragment.textAt_eq]
  · rw [applyAll_eq, applyAll_eq, ← Fragment.allLines_allUngrouped, hungrouped,
      Fragment.allLines_allUngrouped]
  · rw [Fragment.textAt_eq, Line.ofLines_endedLines_renderAll (Fragment.isWhole_of_strings h level)]
  · exact Fragment.endedLines_textAt h indent level
  · exact fun indent k => Fragment.endedLines_textAt_add h indent level k

/-- A block with a comment, an empty line, a blank one and an inner block that another one closes,
three levels in. -/
theorem Buffer.block_at_level_three :
    let f : Fragment := .block "class A \x7b" [.docComment "doc", .sequence [.line "", .blank],
      .block "if (x) \x7b" [.line "f();"] none] (some "\x7d")
    let atOne := ["\tclass A \x7b", "\t\t/** doc */", "\t\t", "", "\t\tif (x) \x7b", "\t\t\tf();",
      "\t\x7d"]
    (∀ s ∈ f.strings, '\n' ∉ s.toList) ∧ endedLines (f.textAt .tab 1) = atOne ∧
      endedLines (f.textAt .tab 3) =
        List.zipWith
          (fun line text => if line = .blank then text else indentation .tab 2 ++ text)
          (f.lines 1) atOne := by
  intro f atOne
  have h : ∀ s ∈ f.strings, '\n' ∉ s.toList := by decide
  have hone : endedLines (f.textAt .tab 1) = atOne := (((apply_at_level {} f).2.2 h 1).1 .tab).2
  refine ⟨h, hone, ?_⟩
  rw [← hone]
  exact ((apply_at_level {} f).2.2 h 1).2 .tab 2

end Bindery.Source

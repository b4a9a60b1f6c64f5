import Bindery.Proofs.Class.Strings
import Bindery.Proofs.Output.Heading

/-!
# Classes member by member

The text of a class is put together from the texts that its members have on their own. Inside the
class, each line of a member is moved in by one unit of indentation, and one empty line stands
between two members. No member has an empty line of its own, so the empty lines of a class are these
and no others.

## Main results

* `ClassSpec.allLines_memberFragments`: the lines of members are those of each, with blank lines
  between
* `Member.blank_notMem_allLines`: a member has no blank line
* `ClassSpec.endedLines_fragments`: the lines of a class, from those that its members have alone
* `ClassSpec.text_member_by_member`: the text of a class and of the file that it is in
-/

namespace Bindery

open Source (Fragment Indent Line Buffer textOf ofLines endedLines)

/-! ## Lists with a separator -/

theorem Source.map_intercalate {α β : Type} (f : α → β) (sep : List α) (blocks : List (List α)) :
    (sep.intercalate blocks).map f = (sep.map f).intercalate (blocks.map (List.map f)) := by
  induction blocks with
  | nil => rfl
  | cons block blocks ih =>
    cases blocks with
    | nil => simp
    | cons next blocks =>
      have hne : (next :: blocks).map (List.map f) ≠ [] := by simp
      rw [List.intercalate_cons_cons, List.map_append, List.map_append, ih]
      exact (List.intercalate_cons_of_ne_nil hne).symm

/-- A separator that occurs in no block occurs once less than there are blocks. -/
theorem Source.count_intercalate {α : Type} [BEq α] [LawfulBEq α] {x : α} {blocks : List (List α)}
    (h : ∀ block ∈ blocks, x ∉ block) :
    ([x].intercalate blocks).count x = blocks.length - 1 := by
  induction blocks with
  | nil => rfl
  | cons block blocks ih =>
    rw [List.forall_mem_cons] at h
    have hblock : block.count x = 0 := List.count_eq_zero.mpr h.1
    cases blocks with
    | nil => rw [List.intercalate_singleton, hblock]; rfl
    | cons next blocks =>
      have ih := ih h.2
      rw [List.length_cons] at ih ⊢
      rw [List.intercalate_cons_cons, List.count_append, List.count_append, hblock, ih,
        List.count_singleton_self]
      simp only [List.length_cons]
      omega

/-! ## Lines of members -/

namespace ClassSpec

/-- The lines of members are those of one member after the other, with a blank line between. -/
theorem allLines_memberFragments (level : Nat) (ms : List Member) :
    Fragment.allLines level (memberFragments ms) =
      [Line.blank].intercalate (ms.map fun m => Fragment.allLines level m.fragments) := by
  induction ms with
  | nil => rfl
  | cons m ms ih =>
    cases ms with
    | nil => rw [memberFragments, List.map_singleton, List.intercalate_singleton]
    | cons next ms =>
      rw [List.map_cons, List.intercalate_cons_of_ne_nil (by simp), ← ih, memberFragments,
        Fragment.allLines_append, Fragment.allLines, Fragment.lines, List.append_assoc]
      simp

end ClassSpec

/-- Statements have no blank line. -/
theorem Statement.blank_notMem_allLines (ss : List Statement) (level : Nat) :
    Line.blank ∉ Fragment.allLines level (bodyFragments ss) := by
  induction ss using body_induction generalizing level with
  | nil => simp [bodyFragments, Fragment.allLines]
  | expr code ss ih => simp [bodyFragments, fragments, Fragment.allLines, Fragment.lines, ih]
  | ret code ss ih => simp [bodyFragments, fragments, Fragment.allLines, Fragment.lines, ih]
  | branch condition body ss ihBody ih =>
    simp [bodyFragments, fragments, Fragment.allLines, Fragment.lines, ihBody, ih]
  | branchElse condition body alternative ss ihBody ihAlternative ih =>
    simp [bodyFragments, fragments, Fragment.allLines, Fragment.lines, ihBody, ihAlternative, ih]

namespace Member

/-- A member has no blank line. -/
theorem blank_notMem_allLines (m : Member) (level : Nat) :
    Line.blank ∉ Fragment.allLines level m.fragments := by
  cases m with
  | field f => simp [fragments, FieldSpec.fragments, Fragment.allLines, Fragment.lines]
  | method m =>
    have hbody := Statement.blank_notMem_allLines m.body (level + 1)
    have hdoc : Line.blank ∉ Fragment.allLines level (m.doc.map Fragment.docComment).toList := by
      cases m.doc <;> simp [Fragment.allLines, Fragment.lines]
    simp [fragments, MethodSpec.fragments, Fragment.allLines_append,
      AnnotationSpec.allLines_fragments, Fragment.allLines_singleton, Fragment.lines, hdoc, hbody]

theorem allLines_ne_nil (m : Member) (level : Nat) :
    Fragment.allLines level m.fragments ≠ [] := by
  cases m with
  | field f => simp [fragments, FieldSpec.fragments, Fragment.allLines, Fragment.lines]
  | method m =>
    simp [fragments, MethodSpec.fragments, Fragment.allLines_append, Fragment.allLines_singleton,
      Fragment.lines]

/-- The lines of the text that a member has on its own, moved in by one unit of indentation. -/
def block (indent : Indent) (m : Member) : List String :=
  (endedLines (textOf indent m.fragments)).map (indent.unit ++ ·)

theorem empty_notMem_block (indent : Indent) (m : Member) : "" ∉ m.block indent := by
  rw [block, List.mem_map]
  rintro ⟨line, -, hline⟩
  have hunit : ∀ unit ∈ ["  ", "        ", "    ", "\t"], unit ≠ "" := by decide
  exact hunit indent.unit indent.unit_mem (String.append_eq_empty_iff.mp hline).1

section Whole

variable {m : Member} (h : ∀ s ∈ m.strings, '\n' ∉ s.toList) (indent : Indent)

include h

/-- One level in, a member has the lines of the text that it has on its own, each moved in. -/
theorem map_render_allLines_one :
    (Fragment.allLines 1 m.fragments).map (Line.render indent) = m.block indent := by
  have hwhole := Fragment.isWhole_of_allStrings (newline_notMem_fragments h) 0
  rw [block, Source.textOf_eq, Line.endedLines_renderAll hwhole, List.map_map]
  have hlines := Fragment.allLines_add 0 1 m.fragments
  rw [Nat.zero_add] at hlines
  rw [hlines, List.map_map]
  refine List.map_congr_left fun line hline => ?_
  -- only a blank line would stay where it is, and a member has none
  have hcode : line ≠ .blank := ne_of_mem_of_not_mem hline (m.blank_notMem_allLines 0)
  rw [Function.comp, line.render_deeper, if_neg hcode, Buffer.indentation_one]
  rfl

theorem block_ne_nil : m.block indent ≠ [] := by
  rw [← map_render_allLines_one h, ne_eq, List.map_eq_nil_iff]
  exact m.allLines_ne_nil 1

theorem ofLines_endedLines :
    ofLines (endedLines (textOf indent m.fragments)) = textOf indent m.fragments := by
  have hwhole := Fragment.isWhole_of_allStrings (newline_notMem_fragments h) 0
  rw [Source.textOf_eq, Line.ofLines_endedLines_renderAll hwhole]

end Whole

end Member

/-! ## Lines of a class -/

namespace ClassSpec

/-- The lines in front of the members: the annotations and the line that opens the class. -/
def front (spec : ClassSpec) : List String :=
  spec.annotations.map AnnotationSpec.line ++ [spec.header]

theorem empty_notMem_front (spec : ClassSpec) : "" ∉ spec.front := by
  rw [front, List.mem_append, List.mem_map, List.mem_singleton, not_or]
  constructor
  · rintro ⟨a, -, hline⟩
    have hhead := a.line_head?
    rw [hline] at hhead
    cases hhead
  · intro hheader
    have hbrace := (String.append_eq_empty_iff.mp hheader.symm).2
    exact absurd hbrace (by decide)

section Whole

variable {spec : ClassSpec} (h : ∀ s ∈ spec.strings, '\n' ∉ s.toList) (indent : Indent)

include h

theorem newline_notMem_of_mem_members {m : Member} (hm : m ∈ spec.members) :
    ∀ s ∈ m.strings, '\n' ∉ s.toList := by
  intro s hs
  refine h s ?_
  rw [strings, List.mem_append]
  exact .inr (List.mem_flatMap.mpr ⟨m, hm, hs⟩)

/-- The lines of a class are those in front of the members, the lines of each member, with an empty
line between two members, and the brace. -/
theorem endedLines_fragments :
    endedLines (textOf indent spec.fragments) =
      spec.front ++ [""].intercalate (spec.members.map (Member.block indent)) ++ ["\x7d"] := by
  have hwhole := Fragment.isWhole_of_allStrings (newline_notMem_fragments h) 0
  have hmembers : (Fragment.allLines 1 (memberFragments spec.members)).map (Line.render indent) =
      [""].intercalate (spec.members.map (Member.block indent)) := by
    rw [allLines_memberFragments, Source.map_intercalate, List.map_map]
    refine congrArg [""].intercalate (List.map_congr_left fun m hm => ?_)
    exact Member.map_render_allLines_one (newline_notMem_of_mem_members h hm) indent
  rw [Source.textOf_eq, Line.endedLines_renderAll hwhole, fragments, Fragment.allLines_append,
    Fragment.allLines_singleton, Fragment.lines, List.map_append,
    AnnotationSpec.map_render_allLines, List.map_append, List.map_cons, hmembers, front]
  simp [Line.render, Statement.closing]

/-- **The text of a class goes member by member.** If no text in a class breaks, its source
consists of the annotations, the line that opens it, the members and a brace. A member stands there
with the lines that it has on its own, whatever its neighbours are, each moved in by one unit of
indentation, and with one empty line between it and the next. There is no other empty line, in
particular none before the first member or behind the last. In a file, the text of the class stands
behind the comment and, if there is a package, the package line, each followed by an empty line. -/
theorem text_member_by_member :
    textOf indent spec.fragments = ofLines (endedLines (textOf indent spec.fragments)) ∧
      endedLines (textOf indent spec.fragments) =
        spec.front ++ [""].intercalate (spec.members.map (Member.block indent)) ++ ["\x7d"] ∧
      (∀ m ∈ spec.members,
        textOf indent m.fragments = ofLines (endedLines (textOf indent m.fragments)) ∧
          m.block indent ≠ [] ∧ "" ∉ m.block indent) ∧
      "" ∉ spec.front ∧
      (endedLines (textOf indent spec.fragments)).count "" = spec.members.length - 1 ∧
      ∀ package, Output.SourceFile.content { package, spec, indent } =
        ofLines [Output.SourceFile.header, ""] ++
          (if package = "" then "" else ofLines ["package " ++ package ++ ";", ""]) ++
            textOf indent spec.fragments := by
  have hwhole := Fragment.isWhole_of_allStrings (newline_notMem_fragments h) 0
  refine ⟨?_, endedLines_fragments h indent, fun m hm => ?_, spec.empty_notMem_front, ?_,
    fun package => ?_⟩
  · rw [Source.textOf_eq, Line.ofLines_endedLines_renderAll hwhole]
  · have hstrings := newline_notMem_of_mem_members h hm
    exact ⟨(Member.ofLines_endedLines hstrings indent).symm, Member.block_ne_nil hstrings indent,
      m.empty_notMem_block indent⟩
  · have hblocks : ∀ block ∈ spec.members.map (Member.block indent), "" ∉ block := by
      intro block hblock
      obtain ⟨m, -, rfl⟩ := List.mem_map.mp hblock
      exact m.empty_notMem_block indent
    rw [endedLines_fragments h, List.count_append, List.count_append,
      List.count_eq_zero.mpr spec.empty_notMem_front, Source.count_intercalate hblocks,
      List.length_map]
    simp
  · rw [Output.SourceFile.content_eq, Output.SourceFile.classText]
    split <;>
      simp only [Source.ofLines_cons, Source.ofLines_nil, String.append_assoc, String.empty_append,
        String.append_empty]

end Whole

/-- A class with an annotation, a field, a documented method with an empty alternative, and a method
without statements, in the default package and in another one. -/
theorem widget_member_by_member :
    let spec : ClassSpec := {
      name := "Widget"
      modifiers := [.isFinal]
      superclass := some "Base"
      annotations := [{ name := "java.lang.Deprecated" }]
      members := [
        .field { name := "size", type := "int" },
        .method {
          name := "bind"
          doc := some "Binds."
          body := [.branchElse "ready" [.expr "return f()"] []] },
        .method { name := "unbind" }] }
    let lines := [
      "@Deprecated", "final class Widget extends Base \x7b",
      "\tint size;", "",
      "\t/** Binds. */", "\tvoid bind() \x7b", "\t\tif (ready) \x7b", "\t\t\treturn f();",
      "\t\t\x7d else \x7b", "\t\t\x7d", "\t\x7d", "",
      "\tvoid unbind() \x7b", "\t\x7d", "\x7d"]
    (∀ s ∈ spec.strings, '\n' ∉ s.toList) ∧ endedLines (textOf .tab spec.fragments) = lines ∧
      lines.count "" = 2 ∧
      Output.SourceFile.content { package := "a.b", spec, indent := .tab } =
        ofLines [Output.SourceFile.header, "", "package a.b;", ""] ++ ofLines lines := by
  intro spec lines
  have h : ∀ s ∈ spec.strings, '\n' ∉ s.toList := by decide
  obtain ⟨htext, hlines, -, -, hcount, hfile⟩ := text_member_by_member h .tab
  have hlines : endedLines (textOf .tab spec.fragments) = lines := hlines.trans rfl
  refine ⟨h, hlines, ?_, ?_⟩
  · rw [← hlines]
    exact hcount
  · rw [← hlines, ← htext, hfile "a.b"]
    rfl

end ClassSpec

end Bindery

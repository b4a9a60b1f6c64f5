import Bindery.Proofs.Class.Strings
import Bindery.Proofs.Output.Location

/-!
# What a source text declares

The text of a file tells where the file belongs. Its first line with code is the package line, if
there is one, and the first line that opens a class names the class. Both are read off the text
alone, so they say what a reader of the file finds, whatever the file was made from.

## Main definitions

* `codeLines`: the lines of a text with code on them
* `declaredPackage?`, `declaredClass?`: the package and the class that a text declares
* `declaredPath?`: the directories and the file name that follow from these

## Main results

* `codeLines_content`: the lines with code at the top of a source file
* `declaredPackage?_content`, `declaredClass?_content`: a source file declares its own package and
  class
* `declaredPath?_content`: a source file that is well placed is where its text belongs
-/

namespace Bindery.Source

/-! ## Reading a text -/

/-- Whether a line has code on it: it is not blank and no comment. -/
def hasCode (line : String) : Bool :=
  line != "" && (Text.dropPrefix? "//" line).isNone

/-- The lines of a text with code on them. -/
def codeLines (text : String) : List String :=
  (linesOf text).filter hasCode

/-- What stands in front of the first `stop`. -/
def upTo (stop : Char) (text : String) : String :=
  String.ofList (text.toList.takeWhile (· != stop))

/-- The package that a text declares: its first line with code names it, up to the semicolon. A text
whose first line with code is no package line declares none. -/
def declaredPackage? (text : String) : Option String :=
  ((codeLines text).head?.bind (Text.dropPrefix? "package ")).map (upTo ';')

/-- The class that a text declares: the first line that opens one names it, up to a blank. -/
def declaredClass? (text : String) : Option String :=
  ((codeLines text).findSome? (Text.dropPrefix? "public final class ")).map (upTo ' ')

/-- Where a text belongs by what it declares: a directory for each segment of the package, and in
the last one a file that is named after the class. -/
def declaredPath? (text : String) : Option (List String) :=
  (declaredClass? text).map fun name =>
    ((declaredPackage? text).map Text.segments).getD [] ++ [name ++ ".java"]

/-! ## Lines of a text -/

/-- A text without an end of line stands at the front of the first line. -/
theorem exists_linesOf_append {front : String} (h : '\n' ∉ front.toList) (text : String) :
    ∃ line lines, linesOf (front ++ text) = (front ++ line) :: lines := by
  have hne : Text.splitOn '\n' text.toList ≠ [] := by
    rw [Text.splitOn_eq_splitOn]
    exact List.splitOn_ne_nil '\n' text.toList
  obtain ⟨piece, pieces, hpieces⟩ := List.exists_cons_of_ne_nil hne
  refine ⟨String.ofList piece, pieces.map String.ofList, ?_⟩
  rw [linesOf, String.toList_append, Text.splitOn_append_of_notMem h hpieces, List.map_cons,
    String.ofList_append, String.ofList_toList]

theorem codeLines_append_lineEnd {line : String} (h : '\n' ∉ line.toList) (text : String) :
    codeLines (line ++ "\n" ++ text) =
      if hasCode line then line :: codeLines text else codeLines text := by
  rw [codeLines, linesOf_append_lineEnd h, List.filter_cons, codeLines]

/-- A line that starts with some character other than a slash has code on it. -/
theorem hasCode_of_head {line : String} {c : Char} (h : line.toList.head? = some c) (hc : c ≠ '/') :
    hasCode line = true := by
  have hne : line ≠ "" := by
    rintro rfl
    cases h
  rw [hasCode, Text.dropPrefix?_of_head? (p := '/') (by decide) h (Ne.symm hc)]
  simp [hne]

/-- A text that starts with code and does not break stands at the front of the first line with code.
-/
theorem exists_codeLines_append {front : String} (h : '\n' ∉ front.toList) {c : Char}
    (hhead : front.toList.head? = some c) (hc : c ≠ '/') (text : String) :
    ∃ more others, codeLines (front ++ text) = (front ++ more) :: others := by
  obtain ⟨line, lines, hlines⟩ := exists_linesOf_append h text
  have hcode : hasCode (front ++ line) = true := by
    apply hasCode_of_head _ hc
    rw [String.toList_append, List.head?_append, hhead, Option.some_or]
  refine ⟨line, lines.filter hasCode, ?_⟩
  rw [codeLines, hlines, List.filter_cons, if_pos hcode]

/-- Lines of code in front of a text are the first lines with code. -/
theorem codeLines_ofLines {lines : List String}
    (h : ∀ line ∈ lines, '\n' ∉ line.toList ∧ hasCode line = true) (text : String) :
    codeLines (ofLines lines ++ text) = lines ++ codeLines text := by
  induction lines with
  | nil => rw [ofLines_nil, String.empty_append, List.nil_append]
  | cons line lines ih =>
    rw [List.forall_mem_cons] at h
    rw [ofLines_cons, String.append_assoc, codeLines_append_lineEnd h.1.1, if_pos h.1.2, ih h.2,
      List.cons_append]

theorem upTo_append {stop : Char} {front rest : String} (h : stop ∉ front.toList) :
    upTo stop (front ++ (String.singleton stop ++ rest)) = front := by
  apply String.toList_inj.mp
  rw [upTo, String.toList_ofList, String.toList_append, String.toList_append,
    String.toList_singleton, List.singleton_append, List.takeWhile_append_of_pos]
  · simp
  · intro c hc
    simp only [bne_iff_ne, ne_eq]
    rintro rfl
    exact h hc

end Bindery.Source

namespace Bindery

theorem AnnotationSpec.line_head? (a : AnnotationSpec) : a.line.toList.head? = some '@' := by
  rw [line]
  split <;> simp

namespace Output

open Source (Fragment Line codeLines declaredPackage? declaredClass? hasCode upTo)

namespace SourceFile

/-! ## The top of a source file -/

/-- A file that can be read back: the package and the class are written with characters that end
neither of them early, the annotations stay on their lines, and the class is public and final. -/
structure Declares (file : SourceFile) : Prop where
  package : '\n' ∉ file.package.toList ∧ ';' ∉ file.package.toList
  name : '\n' ∉ file.spec.name.toList ∧ ' ' ∉ file.spec.name.toList
  annotations : ∀ a ∈ file.spec.annotations, '\n' ∉ a.line.toList
  modifiers : file.spec.modifiers = [.isPublic, .isFinal]
  superclass : file.spec.superclass ≠ none

variable {file : SourceFile}

/-- The text of the class in a file. -/
def classText (file : SourceFile) : String :=
  Source.textOf file.indent file.spec.fragments

/-- The text of a file is the text of its class behind the comment and the package line. -/
theorem content_eq (file : SourceFile) :
    file.content =
      header ++ "\n" ++ ("" ++ "\n" ++
        if file.package = "" then file.classText
        else "package " ++ file.package ++ ";" ++ "\n" ++ ("" ++ "\n" ++ file.classText)) := by
  rw [content, Source.textOf_eq, classText, Source.textOf_eq, preamble]
  split <;>
    simp [Fragment.allLines, Fragment.lines, Line.render, String.append_assoc]

/-- The lines with code in a file are the package line and those of the class. -/
theorem codeLines_content (h : '\n' ∉ file.package.toList) :
    codeLines file.content =
      (if file.package = "" then [] else ["package " ++ file.package ++ ";"]) ++
        codeLines file.classText := by
  have hblank : ∀ text, codeLines ("" ++ "\n" ++ text) = codeLines text := by
    intro text
    rw [Source.codeLines_append_lineEnd (by decide), if_neg (by decide)]
  rw [content_eq, Source.codeLines_append_lineEnd (by decide), if_neg (by decide), hblank]
  split
  · rfl
  · have hline : '\n' ∉ ("package " ++ file.package ++ ";").toList := by
      simpa using h
    have hcode : hasCode ("package " ++ file.package ++ ";") = true :=
      Source.hasCode_of_head (c := 'p') (by simp) (by decide)
    rw [Source.codeLines_append_lineEnd hline, if_pos hcode, hblank]
    rfl

/-- The text of a class is its annotations, one on a line, the line that opens it, and more. -/
theorem exists_classText_eq (file : SourceFile) :
    ∃ rest, file.classText =
      Source.ofLines (file.spec.annotations.map AnnotationSpec.line) ++
        (file.spec.header ++ rest) := by
  rw [classText, Source.textOf_eq, ClassSpec.fragments, Fragment.allLines_append,
    Line.renderAll_append, Line.renderAll_eq_ofLines _ (Fragment.allLines 0 (List.flatMap _ _)),
    AnnotationSpec.map_render_allLines]
  simp only [Fragment.allLines, Fragment.lines, List.cons_append, Line.renderAll_cons, Line.render,
    Source.Buffer.indentation_zero, String.empty_append, String.append_assoc]
  exact ⟨_, rfl⟩

/-- The lines with code in a class are its annotations, the line that opens it, and others. -/
theorem codeLines_classText (h : file.Declares) :
    ∃ more others, codeLines file.classText =
      file.spec.annotations.map AnnotationSpec.line ++
        ("public final class " ++ file.spec.name ++ " " ++ more) :: others := by
  obtain ⟨superclass, hsuperclass⟩ := Option.ne_none_iff_exists'.mp h.superclass
  obtain ⟨rest, hrest⟩ := file.exists_classText_eq
  -- the superclass may hold anything, so the opening line is known up to the name only
  have hopening : file.spec.header ++ rest =
      "public final class " ++ file.spec.name ++ " " ++
        ("extends " ++ superclass ++ " \x7b" ++ rest) := by
    have hmodifiers : Modifier.listText [.isPublic, .isFinal] = "public final " := rfl
    have hsplit : " extends " = " " ++ "extends " := rfl
    have hstart : "public final class " = "public final " ++ "class " := rfl
    rw [ClassSpec.header, h.modifiers, hmodifiers, hsuperclass, hsplit, hstart]
    simp only [Option.map_some, Option.getD_some, String.append_assoc]
  have hfront : '\n' ∉ ("public final class " ++ file.spec.name ++ " ").toList := by
    simpa using h.name.1
  obtain ⟨more, others, hlines⟩ := Source.exists_codeLines_append hfront (c := 'p') (by simp)
    (by decide) ("extends " ++ superclass ++ " \x7b" ++ rest)
  have hann : ∀ line ∈ file.spec.annotations.map AnnotationSpec.line,
      '\n' ∉ line.toList ∧ hasCode line = true := by
    intro line hline
    obtain ⟨a, ha, rfl⟩ := List.mem_map.mp hline
    exact ⟨h.annotations a ha, Source.hasCode_of_head a.line_head? (by decide)⟩
  refine ⟨more, others, ?_⟩
  rw [hrest, Source.codeLines_ofLines hann, hopening, hlines]

/-! ## Reading a source file back -/

theorem dropPrefix?_package_class (text : String) :
    Text.dropPrefix? "package " ("public final class " ++ text) = none := by
  rw [Text.dropPrefix?_eq_none_iff]
  intro rest heq
  simpa using congrArg String.toList heq

theorem dropPrefix?_class_package (text : String) :
    Text.dropPrefix? "public final class " ("package " ++ text) = none := by
  rw [Text.dropPrefix?_eq_none_iff]
  intro rest heq
  simpa using congrArg String.toList heq

/-- A source file declares its own package, and none if it is in the default package. -/
theorem declaredPackage?_content (h : file.Declares) :
    declaredPackage? file.content = if file.package = "" then none else some file.package := by
  obtain ⟨more, others, hlines⟩ := codeLines_classText h
  rw [declaredPackage?, codeLines_content h.package.1, hlines]
  split
  · rw [List.nil_append]
    cases file.spec.annotations with
    | nil =>
      rw [List.map_nil, List.nil_append, List.head?_cons, Option.bind_some, String.append_assoc,
        String.append_assoc, dropPrefix?_package_class, Option.map_none]
    | cons a as =>
      rw [List.map_cons, List.cons_append, List.head?_cons, Option.bind_some,
        Text.dropPrefix?_of_head? (p := 'p') (by decide) a.line_head? (by decide), Option.map_none]
  · have hline : "package " ++ file.package ++ ";" =
        "package " ++ (file.package ++ (String.singleton ';' ++ "")) := by
      rw [String.append_assoc]
      rfl
    rw [List.singleton_append, List.head?_cons, Option.bind_some, hline,
      Text.dropPrefix?_append, Option.map_some, Source.upTo_append h.package.2]

/-- A source file declares its own class. -/
theorem declaredClass?_content (h : file.Declares) :
    declaredClass? file.content = some file.spec.name := by
  obtain ⟨more, others, hlines⟩ := codeLines_classText h
  rw [declaredClass?, codeLines_content h.package.1, hlines]
  have hpackage : (if file.package = "" then [] else ["package " ++ file.package ++ ";"]).findSome?
      (Text.dropPrefix? "public final class ") = none := by
    split
    · rfl
    · rw [List.findSome?_singleton, String.append_assoc, dropPrefix?_class_package]
  have hann : (file.spec.annotations.map AnnotationSpec.line).findSome?
      (Text.dropPrefix? "public final class ") = none := by
    rw [List.findSome?_eq_none_iff]
    intro line hline
    obtain ⟨a, -, rfl⟩ := List.mem_map.mp hline
    exact Text.dropPrefix?_of_head? (p := 'p') (by decide) a.line_head? (by decide)
  have hopening : "public final class " ++ file.spec.name ++ " " ++ more =
      "public final class " ++ (file.spec.name ++ (String.singleton ' ' ++ more)) := by
    rw [String.append_assoc, String.append_assoc]
    rfl
  rw [List.findSome?_append, hpackage, Option.none_or, List.findSome?_append, hann, Option.none_or,
    List.findSome?_cons, hopening, Text.dropPrefix?_append, Option.map_some,
    Source.upTo_append h.name.2]

/-- A well-placed file is where its text belongs. -/
theorem declaredPath?_content (h : file.Declares) (hplaced : file.WellPlaced) :
    Source.declaredPath? file.content = some (directories file.package ++ [file.fileName]) := by
  rw [Source.declaredPath?, declaredClass?_content h, declaredPackage?_content h,
    directories_of_isPackage hplaced.package, Option.map_some, fileName]
  split <;> rfl

end SourceFile

end Output

end Bindery

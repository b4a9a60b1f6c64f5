import Bindery.Class.Spec
import Bindery.Source.Fragment
import Bindery.Target.TypeName

/-!
# Class source

How annotations, statements, members and classes are written as source fragments. A conditional with
an alternative is two blocks: the first has no closing line, for the header of the second closes it.
Members of a class are separated by blank lines.
-/

namespace Bindery

open Source (Fragment)

/-- The modifiers, each followed by a blank. -/
def Modifier.listText (modifiers : List Modifier) : String :=
  String.join (modifiers.map fun m => m.name ++ " ")

/-- The line of an annotation. -/
def AnnotationSpec.line (a : AnnotationSpec) : String :=
  let name := "@" ++ Target.shortTypeName a.name
  if a.members.isEmpty then name
  else name ++ "(" ++ Text.join ", " (a.members.map fun m => m.1 ++ " = " ++ m.2) ++ ")"

/-- The fragments of an annotation. -/
def AnnotationSpec.fragments (a : AnnotationSpec) : List Fragment := [.line a.line]

namespace Statement

/-- The line that opens a conditional. -/
def branchHeader (condition : String) : String := "if (" ++ condition ++ ") \x7b"

/-- The line that opens an alternative. -/
def elseHeader : String := "\x7d else \x7b"

/-- The line that closes a block. -/
def closing : String := "\x7d"

mutual

/-- The fragments of a statement. -/
def fragments : Statement → List Fragment
  | .expr code => [.line (code ++ ";")]
  | .ret code => [.line ("return " ++ code ++ ";")]
  | .branch condition body =>
    [.block (branchHeader condition) (bodyFragments body) (some closing)]
  | .branchElse condition body alternative =>
    [.block (branchHeader condition) (bodyFragments body) none,
     .block elseHeader (bodyFragments alternative) (some closing)]

/-- The fragments of statements one after the other. -/
def bodyFragments : List Statement → List Fragment
  | [] => []
  | s :: ss => fragments s ++ bodyFragments ss

end

end Statement

/-- The line of a field declaration. -/
def FieldSpec.line (f : FieldSpec) : String :=
  let declaration := Modifier.listText f.modifiers ++ Target.shortTypeName f.type ++ " " ++ f.name
  match f.initializer with
  | some value => declaration ++ " = " ++ value ++ ";"
  | none => declaration ++ ";"

/-- The fragments of a field declaration. -/
def FieldSpec.fragments (f : FieldSpec) : List Fragment := [.line f.line]

namespace MethodSpec

/-- The line that opens a method. -/
def header (m : MethodSpec) : String :=
  let params := m.params.map fun p => Target.shortTypeName p.type ++ " " ++ p.name
  Modifier.listText m.modifiers ++ (m.returns.map Target.shortTypeName).getD "void" ++ " " ++ m.name
    ++ "(" ++ Text.join ", " params ++ ") \x7b"

/-- The fragments of a method. -/
def fragments (m : MethodSpec) : List Fragment :=
  (m.doc.map Fragment.docComment).toList ++ m.annotations.flatMap AnnotationSpec.fragments
    ++ [.block m.header (Statement.bodyFragments m.body) (some Statement.closing)]

end MethodSpec

/-- The fragments of a member. -/
def Member.fragments : Member → List Fragment
  | .field f => f.fragments
  | .method m => m.fragments

namespace ClassSpec

/-- The line that opens a class. -/
def header (spec : ClassSpec) : String :=
  Modifier.listText spec.modifiers ++ "class " ++ spec.name
    ++ (spec.superclass.map (" extends " ++ ·)).getD "" ++ " \x7b"

/-- The fragments of members, separated by blank lines. -/
def memberFragments : List Member → List Fragment
  | [] => []
  | [m] => m.fragments
  | m :: ms => m.fragments ++ .blank :: memberFragments ms

/-- The fragments of a class. -/
def fragments (spec : ClassSpec) : List Fragment :=
  spec.annotations.flatMap AnnotationSpec.fragments
    ++ [.block spec.header (memberFragments spec.members) (some Statement.closing)]

end ClassSpec

end Bindery

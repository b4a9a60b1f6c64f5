/-!
# Class descriptions

What a generated class consists of, free of any layout: modifiers, a superclass, annotations, and
fields and methods whose bodies are statement trees. Conditions and simple statements are code
texts.

## Main definitions

* `Statement`: simple statements and conditionals
* `FieldSpec`, `MethodSpec`, `Member`: the members of a class
* `ClassSpec`: a class
-/

namespace Bindery

/-- A modifier of a class or member. -/
inductive Modifier where
  | isPublic
  | isProtected
  | isPrivate
  | isStatic
  | isFinal
  deriving DecidableEq, Repr, Inhabited

/-- The modifier as source writes it. -/
def Modifier.name : Modifier → String
  | isPublic => "public"
  | isProtected => "protected"
  | isPrivate => "private"
  | isStatic => "static"
  | isFinal => "final"

/-- An annotation with its arguments, in order. -/
structure AnnotationSpec where
  /-- The qualified name of the annotation. -/
  name : String
  /-- The arguments, each a name and a value as code. -/
  members : List (String × String) := []
  deriving DecidableEq, Repr, Inhabited

namespace AnnotationSpec

/-- The annotation of a method that overrides another. -/
def overriding : AnnotationSpec := { name := "java.lang.Override" }

/-- The value of the first argument called `key`. -/
def value? (a : AnnotationSpec) (key : String) : Option String :=
  a.members.lookup key

end AnnotationSpec

/-- A statement of a method body. -/
inductive Statement where
  /-- A simple statement, given without its semicolon. -/
  | expr (code : String)
  /-- A return of the given expression. -/
  | ret (code : String)
  /-- A conditional without an alternative. -/
  | branch (condition : String) (body : List Statement)
  /-- A conditional with an alternative, which may be empty. -/
  | branchElse (condition : String) (body alternative : List Statement)
  deriving Repr, Inhabited, BEq

/-- A formal parameter. -/
structure Parameter where
  /-- The parameter's name. -/
  name : String
  /-- The qualified name of its type. -/
  type : String
  deriving DecidableEq, Repr, Inhabited

/-- A field that a class declares. -/
structure FieldSpec where
  /-- The field's name. -/
  name : String
  /-- The qualified name of its type. -/
  type : String
  /-- The modifiers, in order. -/
  modifiers : List Modifier := []
  /-- The initial value, as code. -/
  initializer : Option String := none
  deriving DecidableEq, Repr, Inhabited

/-- A method that a class declares. -/
structure MethodSpec where
  /-- The method's name. -/
  name : String
  /-- The documentation line. -/
  doc : Option String := none
  /-- The annotations, in order. -/
  annotations : List AnnotationSpec := []
  /-- The modifiers, in order. -/
  modifiers : List Modifier := []
  /-- The parameters, in order. -/
  params : List Parameter := []
  /-- The type returned, none for a method without a result. -/
  returns : Option String := none
  /-- The statements of the body. -/
  body : List Statement := []
  deriving Repr, Inhabited, BEq

/-- A member of a class. -/
inductive Member where
  | field (spec : FieldSpec)
  | method (spec : MethodSpec)
  deriving Repr, Inhabited, BEq

/-- The name of a member. -/
def Member.name : Member → String
  | field spec => spec.name
  | method spec => spec.name

/-- A class. -/
structure ClassSpec where
  /-- The simple name. -/
  name : String
  /-- The modifiers, in order. -/
  modifiers : List Modifier := []
  /-- The qualified name of the superclass. -/
  superclass : Option String := none
  /-- The annotations, in order. -/
  annotations : List AnnotationSpec := []
  /-- The members, in order. -/
  members : List Member := []
  deriving Repr, Inhabited, BEq

namespace ClassSpec

/-- The methods of the class, in order. -/
def methods (spec : ClassSpec) : List MethodSpec :=
  spec.members.filterMap fun
    | .method m => some m
    | .field _ => none

/-- The fields of the class, in order. -/
def fields (spec : ClassSpec) : List FieldSpec :=
  spec.members.filterMap fun
    | .field f => some f
    | .method _ => none

/-- The first method called `name`. -/
def method? (spec : ClassSpec) (name : String) : Option MethodSpec :=
  spec.methods.find? fun m => m.name == name

/-- The first annotation called `name`. -/
def annotationNamed? (spec : ClassSpec) (name : String) : Option AnnotationSpec :=
  spec.annotations.find? fun a => a.name == name

end ClassSpec

end Bindery

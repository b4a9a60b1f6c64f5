import Bindery.Class.Spec

/-!
# Class builders

A class is put together by a sequence of calls: its modifiers, superclass, members and annotations
arrive one after the other, and a last call closes it. Anything that answers these calls is a class
builder. Two are defined here: a draft, which is the class described so far, and a recording, which
also keeps the calls.

## Main definitions

* `ClassBuilder`: what a builder answers
* `BuilderCall`, `ClassBuilder.call`: a call as a value, and the effect of such a call
* `Recording`: a draft together with the calls that led to it
-/

namespace Bindery

/-- What can be asked of a class under construction. -/
class ClassBuilder (β : Type) where
  /-- Append modifiers. -/
  addModifiers : β → List Modifier → β
  /-- Set the superclass. -/
  setSuperclass : β → String → β
  /-- Append a member. -/
  addMember : β → Member → β
  /-- Append an annotation. -/
  annotate : β → AnnotationSpec → β
  /-- Close the class and give its description. -/
  build : β → ClassSpec × β

/-- A call to a class builder. -/
inductive BuilderCall where
  | addModifiers (modifiers : List Modifier)
  | setSuperclass (name : String)
  | addMember (member : Member)
  | annotate (a : AnnotationSpec)
  | build
  deriving Repr, Inhabited, BEq

namespace ClassBuilder

variable {β : Type} [ClassBuilder β]

/-- The effect of a call on a builder. -/
def call (b : β) : BuilderCall → β
  | .addModifiers modifiers => addModifiers b modifiers
  | .setSuperclass name => setSuperclass b name
  | .addMember member => addMember b member
  | .annotate a => annotate b a
  | .build => (build b).2

/-- The builder after a sequence of calls. -/
def replay (b : β) (calls : List BuilderCall) : β :=
  calls.foldl call b

/-- The builder after appending members one after the other. -/
def addMembers (b : β) (members : List Member) : β :=
  members.foldl addMember b

end ClassBuilder

namespace ClassSpec

/-- The class of a given name that declares nothing yet. -/
def opened (name : String) : ClassSpec := { name }

/-- A class description is its own builder: each call extends it. -/
instance : ClassBuilder ClassSpec where
  addModifiers spec modifiers := { spec with modifiers := spec.modifiers ++ modifiers }
  setSuperclass spec name := { spec with superclass := some name }
  addMember spec member := { spec with members := spec.members ++ [member] }
  annotate spec a := { spec with annotations := spec.annotations ++ [a] }
  build spec := (spec, spec)

end ClassSpec

/-- A class under construction together with the calls that were made. -/
structure Recording where
  /-- The class described so far. -/
  draft : ClassSpec
  /-- The name that the class was opened with, if that was noted. -/
  opening : Option String := none
  /-- The calls, oldest first. -/
  calls : List BuilderCall := []
  deriving Repr, Inhabited, BEq

namespace Recording

/-- A recording of a class of a given name, with no calls yet. -/
def opened (name : String) : Recording := { draft := ClassSpec.opened name }

/-- A recording that also notes the opening. -/
def openedNoted (name : String) : Recording :=
  { draft := ClassSpec.opened name, opening := some name }

/-- The recording after one more call. -/
def note (r : Recording) (c : BuilderCall) : Recording :=
  { r with draft := ClassBuilder.call r.draft c, calls := r.calls ++ [c] }

instance : ClassBuilder Recording where
  addModifiers r modifiers := r.note (.addModifiers modifiers)
  setSuperclass r name := r.note (.setSuperclass name)
  addMember r member := r.note (.addMember member)
  annotate r a := r.note (.annotate a)
  build r := ((ClassBuilder.build r.draft).1, r.note .build)

/-- The members that were added, in order. -/
def members (r : Recording) : List Member :=
  r.calls.filterMap fun
    | .addMember member => some member
    | _ => none

/-- The annotations that were added, in order. -/
def annotations (r : Recording) : List AnnotationSpec :=
  r.calls.filterMap fun
    | .annotate a => some a
    | _ => none

end Recording

end Bindery

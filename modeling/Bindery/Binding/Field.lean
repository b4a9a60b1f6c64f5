/-!
# Bound fields

A field of a host class that a marker selects, with the arguments the marker carries.
-/

namespace Bindery

/-- The field modifiers that forbid assigning a field from outside its class. -/
inductive FieldModifier where
  | isPrivate
  | isStatic
  | isFinal
  deriving DecidableEq, Repr, Inhabited

/-- The modifier as a declaration writes it. -/
def FieldModifier.name : FieldModifier → String
  | isPrivate => "private"
  | isStatic => "static"
  | isFinal => "final"

/-- The modifiers, in the order messages list them. -/
def FieldModifier.all : List FieldModifier := [.isPrivate, .isStatic, .isFinal]

/-- A field to bind. -/
structure Field where
  /-- The field's name. -/
  name : String
  /-- The declared type, fully qualified. -/
  type : String
  /-- The declared modifiers, in order and with repetitions. -/
  modifiers : List FieldModifier := []
  /-- The resource id of a view. -/
  id : Option Int := none
  /-- The key to look the value up by. -/
  key : Option String := none
  /-- Whether the value may be absent. -/
  optional : Bool := false
  deriving DecidableEq, Repr, Inhabited

namespace Field

/-- Whether the field is declared with `modifier`. -/
def hasModifier (f : Field) (modifier : FieldModifier) : Bool :=
  f.modifiers.contains modifier

/-- The explicit key: an empty key counts as none. -/
def explicitKey (f : Field) : Option String :=
  f.key.filter fun k => k != ""

end Field

end Bindery

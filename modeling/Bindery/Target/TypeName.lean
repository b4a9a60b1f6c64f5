import Bindery.Text.Basic

/-!
# Type names

Type names are texts, compared as they are written. A primitive type has a boxed counterpart that a
value of type `Object` can be cast to; every other type is its own.

## Main definitions

* `Target.primitives`: the primitive types with their boxed types
* `Target.boxed`: the type to cast an `Object` to
* `Target.shortTypeName`: the name as generated source writes it
-/

namespace Bindery.Target

/-- The primitive types, each with its boxed type. -/
def primitives : List (String × String) :=
  [("boolean", "java.lang.Boolean"),
   ("byte", "java.lang.Byte"),
   ("char", "java.lang.Character"),
   ("short", "java.lang.Short"),
   ("int", "java.lang.Integer"),
   ("long", "java.lang.Long"),
   ("float", "java.lang.Float"),
   ("double", "java.lang.Double")]

/-- Whether `type` names a primitive type. -/
def isPrimitive (type : String) : Bool :=
  primitives.any fun p => p.1 == type

/-- Whether `type` carries type arguments. -/
def isGeneric (type : String) : Bool :=
  type.toList.contains '<'

/-- The reference type for `type`: a primitive type is boxed. -/
def boxed (type : String) : String :=
  (primitives.lookup type).getD type

/-- Types directly in `java.lang` are written without their package. -/
def shortTypeName (type : String) : String :=
  match Text.dropPrefix? "java.lang." type with
  | some rest => if rest.toList.contains '.' then type else rest
  | none => type

end Bindery.Target

import Bindery.Binding.Error
import Bindery.Category.Method
import Bindery.Target.TypeName

/-!
# Instance state bindings

Instance state fields are saved into a bundle and restored from it. The keys share a constant in
front, so that they do not meet keys of the host itself.
-/

namespace Bindery.Category.InstanceState

/-- Every field can be kept in the instance state. -/
def check (_f : Field) : Except Rejection Unit := .ok ()

/-- The warnings that binding `f` causes: a cast to a generic type is not checked. -/
def warnings (f : Field) : List String :=
  if Target.isGeneric f.type then ["unchecked"] else []

/-- The roles of a host that keeps instance state. -/
def supports : HostKind → Bool
  | .activity | .fragment | .view => true
  | .service | .other => false

/-- The parameter that holds the saved state. -/
def bundleParameter : Parameter := { name := "bundle", type := "android.os.Bundle" }

/-- The name of the constant in front of every key. -/
def keyConstant : String := "INSTANCE_KEY_PREFIX"

/-- The declaration of the constant in front of every key. -/
def keyConstantField : Member :=
  .field
    { name := keyConstant
      type := "java.lang.String"
      modifiers := [.isPrivate, .isStatic, .isFinal]
      initializer := some (Target.literal "shiv:instance:") }

/-- The expression of the key that a field is saved under. -/
def keyExpression (f : Field) : String :=
  keyConstant ++ " + " ++ Target.literal f.name

/-- The statement that saves one field. -/
def saveStatement (f : Field) : Statement :=
  .expr ("putInstance(bundle, " ++ keyExpression f ++ ", target." ++ f.name ++ ")")

/-- The guarded read of one field. -/
def restoreStatement (f : Field) : Statement :=
  let key := keyExpression f
  .branch ("bundle.containsKey(" ++ key ++ ")")
    [assignStatement f ("(" ++ Target.boxed f.type ++ ") getInstance(bundle, " ++ key ++ ")")]

/-- The members for the accepted fields. -/
def members (host : Host) (fields : List Field) : List Member :=
  [keyConstantField,
   bindingMethod host "saveInstance" [bundleParameter] (fields.map saveStatement),
   bindingMethod host "restoreInstance" [bundleParameter] (fields.map restoreStatement)]

end Bindery.Category.InstanceState

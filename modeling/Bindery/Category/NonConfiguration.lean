import Bindery.Binding.Error
import Bindery.Category.Method
import Bindery.Target.TypeName

/-!
# Non-configuration bindings

Non-configuration fields are handed over to the next instance of an activity in a map from field
names to values.
-/

namespace Bindery.Category.NonConfiguration

/-- Every field can be handed over. -/
def check (_f : Field) : Except Rejection Unit := .ok ()

/-- The warnings that binding `f` causes: values come out of a map without a type. -/
def warnings (_f : Field) : List String := ["unchecked"]

/-- Only activities hand over instances. -/
def supports : HostKind → Bool
  | .activity => true
  | .fragment | .view | .service | .other => false

/-- The parameter that holds the map handed over. -/
def instanceParameter : Parameter := { name := "instance", type := "java.lang.Object" }

/-- The literal of the key that a field is saved under. -/
def keyExpression (f : Field) : String := Target.literal f.name

/-- The statement that saves one field. -/
def saveStatement (f : Field) : Statement :=
  .expr ("instance.put(" ++ keyExpression f ++ ", target." ++ f.name ++ ")")

/-- The guarded read of one field. -/
def restoreStatement (f : Field) : Statement :=
  let key := keyExpression f
  .branch ("map.containsKey(" ++ key ++ ")")
    [assignStatement f ("(" ++ Target.boxed f.type ++ ") map.get(" ++ key ++ ")")]

/-- The statement that makes the map to hand over. -/
def newMapStatement : Statement :=
  .expr "java.util.HashMap<String, Object> instance = new java.util.HashMap<>()"

/-- The statement that opens the map handed over. -/
def openMapStatement : Statement :=
  .expr "java.util.Map<String, Object> map = (java.util.Map<String, Object>) instance"

/-- The members for the accepted fields. -/
def members (host : Host) (fields : List Field) : List Member :=
  [bindingMethod host "saveNonConfigurationInstance" []
    (newMapStatement :: fields.map saveStatement ++ [.ret "instance"]) (some "java.lang.Object"),
   bindingMethod host "restoreNonConfigurationInstance" [instanceParameter]
    (openMapStatement :: fields.map restoreStatement)]

end Bindery.Category.NonConfiguration

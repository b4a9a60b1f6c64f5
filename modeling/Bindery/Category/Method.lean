import Bindery.Binding.Field
import Bindery.Class.Spec
import Bindery.Host
import Bindery.Options
import Bindery.Target.Literal

/-!
# Binding methods

What the members of all kinds share: a public method that overrides one of the base class, takes the
host as an `Object` and starts by casting it, and a statement that throws the runtime exception.
-/

namespace Bindery.Category

/-- The parameter that holds the host. -/
def hostParameter : Parameter := { name := "object", type := "java.lang.Object" }

/-- The first statement of every binding method: the cast of the parameter to the host's class. -/
def castStatement (host : Host) : Statement :=
  .expr (host.qualifiedName ++ " target = (" ++ host.qualifiedName ++ ") object")

/-- The binding method `name`, with further parameters and with statements after the cast. -/
def bindingMethod (host : Host) (name : String) (params : List Parameter) (body : List Statement)
    (returns : Option String := none) : Member :=
  .method
    { name
      annotations := [.overriding]
      modifiers := [.isPublic]
      params := hostParameter :: params
      returns
      body := castStatement host :: body }

/-- The statement that throws the runtime exception with a message. -/
def throwStatement (options : Options) (message : String) : Statement :=
  .expr ("throw new " ++ options.exceptionClass ++ "(" ++ Target.literal message ++ ")")

/-- The statement that assigns a value to a field of the host. -/
def assignStatement (f : Field) (value : String) : Statement :=
  .expr ("target." ++ f.name ++ " = " ++ value)

end Bindery.Category

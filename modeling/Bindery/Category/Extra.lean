import Bindery.Binding.Error
import Bindery.Category.Method
import Bindery.Target.TypeName

/-!
# Extra bindings

An extra field is assigned the extra stored under its key, or under its name if it has no key.
Unless the field is optional, a missing extra is an error at run time.
-/

namespace Bindery.Category.Extra

/-- Every field can be bound to an extra. -/
def check (_f : Field) : Except Rejection Unit := .ok ()

/-- The warnings that binding `f` causes: a cast to a generic type is not checked. -/
def warnings (f : Field) : List String :=
  if Target.isGeneric f.type then ["unchecked"] else []

/-- The roles of a host that is started with extras. -/
def supports : HostKind → Bool
  | .activity | .fragment => true
  | .view | .service | .other => false

/-- The key of the extra. -/
def keyOf (f : Field) : String := f.explicitKey.getD f.name

/-- The guarded read of one extra. -/
def bindStatement (options : Options) (f : Field) : Statement :=
  let key := Target.literal (keyOf f)
  let condition := "hasExtra(target, " ++ key ++ ")"
  let read := assignStatement f ("(" ++ Target.boxed f.type ++ ") getExtra(target, " ++ key ++ ")")
  if f.optional then .branch condition [read]
  else
    let message := "Required extra '" ++ keyOf f ++ "' for field " ++ f.name ++ " not found"
    .branchElse condition [read] [throwStatement options message]

/-- The members for the accepted fields. -/
def members (host : Host) (options : Options) (fields : List Field) : List Member :=
  [bindingMethod host "bindExtras" [] (fields.map (bindStatement options))]

end Bindery.Category.Extra

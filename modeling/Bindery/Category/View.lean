import Bindery.Binding.Error
import Bindery.Category.Method
import Bindery.Target.TypeName

/-!
# View bindings

A view field is assigned the view with its resource id, searched for below the root view of the
host. Unless the field is optional, a missing view is an error at run time. A second method lets go
of the views.
-/

namespace Bindery.Category.View

/-- The largest resource id. -/
def maxId : Int := 2147483647

/-- A view field needs a resource id in range and a type that is no primitive. -/
def check (f : Field) : Except Rejection Unit :=
  match f.id with
  | none => .error .missingViewId
  | some id =>
    if id ≤ 0 ∨ id > maxId then .error (.invalidViewId id)
    else if Target.isPrimitive f.type then .error (.primitiveType f.type)
    else .ok ()

/-- The warnings that binding `f` causes: an id is written as a bare number. -/
def warnings (_f : Field) : List String := ["ResourceType"]

/-- The roles of a host with views. -/
def supports : HostKind → Bool
  | .activity | .fragment | .view => true
  | .service | .other => false

/-- The expression of the root view. -/
def root (host : Host) : String :=
  match host.kind with
  | .fragment => "target.getView()"
  | _ => "target"

/-- The id that is looked up; accepted fields have one. -/
def idOf (f : Field) : Int := f.id.getD 0

/-- The look-up of one view, followed by the null check unless the field is optional. -/
def bindStatements (host : Host) (options : Options) (f : Field) : List Statement :=
  let id := toString (idOf f)
  let found :=
    assignStatement f ("(" ++ f.type ++ ") " ++ root host ++ ".findViewById(" ++ id ++ ")")
  if f.optional then [found]
  else
    let message := "View with id " ++ id ++ " for field " ++ f.name ++ " not found"
    [found, .branch ("target." ++ f.name ++ " == null") [throwStatement options message]]

/-- The statement that lets go of one view. -/
def unbindStatement (f : Field) : Statement := assignStatement f "null"

/-- The members for the accepted fields. -/
def members (host : Host) (options : Options) (fields : List Field) : List Member :=
  [bindingMethod host "bindViews" [] (fields.flatMap (bindStatements host options)),
   bindingMethod host "unbindViews" [] (fields.map unbindStatement)]

end Bindery.Category.View

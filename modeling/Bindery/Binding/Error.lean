import Bindery.Binding.Field
import Bindery.Binding.Kind
import Bindery.Host

/-!
# Binding errors

Why a field cannot be bound, and why a binder cannot be made. Errors are causes; their wording is in
`Rejection.message` and `BindingError.message` alone.
-/

namespace Bindery

/-- Why a field is refused. -/
inductive Rejection where
  | privateField
  | staticField
  | finalField
  /-- A field of this name is already bound by the same kind. -/
  | duplicate
  | missingViewId
  | invalidViewId (id : Int)
  | missingKey
  | unsupportedType (type : String)
  | primitiveType (type : String)
  | unknownService (type : String)
  deriving DecidableEq, Repr, Inhabited

/-- The wording of a rejection. -/
def Rejection.message : Rejection → String
  | privateField => "field must not be private"
  | staticField => "field must not be static"
  | finalField => "field must not be final"
  | duplicate => "field is already bound"
  | missingViewId => "missing view id"
  | invalidViewId id => s!"view id {id} is not a valid resource id"
  | missingKey => "missing key"
  | unsupportedType type => s!"type '{type}' is not supported"
  | primitiveType type => s!"primitive type '{type}' cannot be bound"
  | unknownService type =>
    s!"no system service is known for type '{type}'; set an explicit key"

/-- Why the bindings of a host do not make a binder. -/
inductive BindingError where
  /-- The text is no marker of any kind. -/
  | unknownMarker (marker : String)
  /-- The field cannot carry a binding of this kind. -/
  | rejected (kind : BindingKind) (host field : String) (reason : Rejection)
  /-- The host's role does not allow bindings of this kind. -/
  | unsupportedHost (kind : BindingKind) (host : String) (hostKind : HostKind)
  deriving DecidableEq, Repr, Inhabited

namespace BindingError

/-- The wording of an error. -/
def message : BindingError → String
  | unknownMarker marker => s!"unknown binding marker '{marker}'"
  | rejected kind host field reason =>
    let kindName := kind.name
    let why := reason.message
    s!"invalid {kindName} binding '{field}' in {host}: {why}"
  | unsupportedHost kind host hostKind =>
    let kindName := kind.name
    let hostKindName := hostKind.name
    s!"{kindName} bindings are not supported in {hostKindName} host {host}"

/-- The diagnostic code of an error. -/
def code : BindingError → String
  | unknownMarker _ => "shiv::unknown_category"
  | rejected .. => "shiv::validation"
  | unsupportedHost .. => "shiv::unsupported_host"

/-- Advice on how to mend the declaration, if there is any. -/
def help : BindingError → Option String
  | unknownMarker _ =>
    some ("valid markers are: " ++ Text.join ", " (BindingKind.all.map BindingKind.marker))
  | rejected .. => none
  | unsupportedHost kind _ _ =>
    let kindName := kind.name
    some s!"move the binding to a host type that supports {kindName} bindings"

end BindingError

end Bindery

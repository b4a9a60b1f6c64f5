import Bindery.Binding.Field
import Bindery.Host
import Bindery.Options

/-!
# Manifest declarations

A manifest lists the hosts to make binders for, with the fields of each.

## Main definitions

* `Manifest`, `HostDecl`, `FieldDecl`: the declarations
* `HostDecl.host`, `HostDecl.bindings`: what a declaration stands for
-/

namespace Bindery

/-- The declaration of a bound field. -/
structure FieldDecl where
  /-- The field's name. -/
  name : String
  /-- The declared type, fully qualified. -/
  type : String
  /-- The marker that selects the kind of binding. -/
  bind : String
  /-- The resource id of a view. -/
  id : Option Int := none
  /-- The key to look the value up by. -/
  key : Option String := none
  /-- Whether the value may be absent. -/
  optional : Bool := false
  /-- The declared modifiers. -/
  modifiers : List FieldModifier := []
  deriving DecidableEq, Repr, Inhabited

/-- The field that is declared. -/
def FieldDecl.field (d : FieldDecl) : Field :=
  { name := d.name, type := d.type, modifiers := d.modifiers, id := d.id, key := d.key
    optional := d.optional }

/-- The declaration of a host. -/
structure HostDecl where
  /-- The fully qualified name. -/
  name : String
  /-- The framework role. -/
  kind : HostKind := .other
  /-- The enclosing package; if it is left out, the name shows it. -/
  package : Option String := none
  /-- The bound fields, in order. -/
  fields : List FieldDecl := []
  deriving DecidableEq, Repr, Inhabited

namespace HostDecl

/-- The host that is declared. -/
def host (d : HostDecl) : Host :=
  match d.package with
  | some package => { qualifiedName := d.name, package, kind := d.kind }
  | none => Host.ofQualifiedName d.name d.kind

/-- The fields with their markers, in order. -/
def bindings (d : HostDecl) : List (String × Field) :=
  d.fields.map fun f => (f.bind, f.field)

end HostDecl

/-- A manifest. -/
structure Manifest where
  /-- The options of the run. -/
  options : Options := {}
  /-- The declared hosts, in order. -/
  hosts : List HostDecl := []
  deriving DecidableEq, Repr, Inhabited

namespace Manifest

/-- The first declaration of a host of the given name. -/
def host? (m : Manifest) (name : String) : Option HostDecl :=
  m.hosts.find? fun d => d.name == name

end Manifest

end Bindery

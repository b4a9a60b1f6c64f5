import Bindery.Text.Basic

/-!
# Hosts

A host is a class whose fields are bound. Its name is fully qualified, with nested classes joined by
dots; the package is the part of the name that is not a class. The binary name of a host is its name
relative to a package, where nested classes are joined by `$`.

## Main definitions

* `Host.ofQualifiedName`: the host whose package is read off its name
* `Host.binaryName`, `Host.classNameIn`: the name relative to the own and to any package
-/

namespace Bindery

/-- The framework role of a host class. -/
inductive HostKind where
  | activity
  | fragment
  | view
  | service
  | other
  deriving DecidableEq, Repr, Inhabited

namespace HostKind

/-- The name used in declarations and messages. -/
def name : HostKind → String
  | activity => "activity"
  | fragment => "fragment"
  | view => "view"
  | service => "service"
  | other => "other"

/-- The roles, in the order messages list them. -/
def all : List HostKind := [activity, fragment, view, service, other]

/-- The role of a given name. -/
def ofName? (name : String) : Option HostKind :=
  all.find? fun kind => kind.name == name

end HostKind

/-- A class that a binder is generated for. -/
structure Host where
  /-- The fully qualified name, nested classes joined by dots. -/
  qualifiedName : String
  /-- The enclosing package, empty for the default package. -/
  package : String
  /-- The framework role. -/
  kind : HostKind := .other
  deriving DecidableEq, Repr, Inhabited

namespace Host

/-- Whether a segment of a name looks like part of a package: it starts with a small letter. -/
def isPackageSegment (segment : String) : Bool :=
  match segment.toList with
  | c :: _ => c.isLower
  | [] => false

/-- The package of a qualified name: its leading package segments, the last segment never counted.
-/
def packageOf (qualifiedName : String) : String :=
  Text.join "." ((Text.segments qualifiedName).dropLast.takeWhile isPackageSegment)

/-- The host of a given name, in the package that the name shows. -/
def ofQualifiedName (qualifiedName : String) (kind : HostKind := .other) : Host :=
  { qualifiedName, package := packageOf qualifiedName, kind }

/-- The last segment of the name. -/
def simpleName (host : Host) : String :=
  (Text.segments host.qualifiedName).getLastD host.qualifiedName

/-- What stands after the package and a dot; the whole name if the package is no such prefix. -/
def relativeName (host : Host) : String :=
  if host.package = "" then host.qualifiedName
  else
    ((Text.dropPrefix? host.package host.qualifiedName).bind (Text.dropPrefix? ".")).getD
      host.qualifiedName

/-- The name relative to the package, nested classes joined by `$`. -/
def binaryName (host : Host) : String :=
  Text.replaceChar '.' '$' host.relativeName

/-- The name of the class seen from `package`; its own package needs no second host. -/
def classNameIn (host : Host) (package : String) : String :=
  if package = host.package then host.binaryName
  else binaryName { qualifiedName := host.qualifiedName, package }

end Host

end Bindery

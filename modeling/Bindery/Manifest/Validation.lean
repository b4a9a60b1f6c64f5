import Bindery.Manifest.Error
import Bindery.Text.Span

/-!
# Manifest validation

The rules that a manifest keeps beyond its shape: hosts have distinct names, names are well formed,
packages enclose their hosts, and types are not blank. The first broken rule is reported.

Labels point at quoted texts, which are searched for from a cursor that moves from host to host, so
that a name which occurs several times is found near its declaration.

## Main definitions

* `Validation.checkName`, `Validation.checkQualifiedName`: the rules for names
* `Validation.checkHost`, `Validation.checkHosts`: the rules for declarations
* `Manifest.check`: the rules for a manifest
-/

namespace Bindery

open Text (Span)

namespace Validation

/-- The place of the first quoted `value` in a text, at or after `start`. -/
def locate (source : List Char) (value : String) (start : Nat) : Option Span :=
  Text.findQuoted? source value.toList start

/-- A name of one segment is no reserved word and is well formed. -/
def checkName (source : List Char) (name : String) (role : NameRole) (start : Nat) :
    Except ManifestFault Unit :=
  if Target.isReserved name then .error (.reservedWord name role (locate source name start))
  else match Target.identifierFault? name with
    | some fault => .error (.invalidIdentifier name role fault (locate source name start))
    | none => .ok ()

/-- No segment of a name is a reserved word, and all are well formed. A fault is placed at the whole
name. -/
def checkSegments (source : List Char) (name : String) (role : NameRole) (start : Nat) :
    List String → Except ManifestFault Unit
  | [] => .ok ()
  | segment :: segments =>
    if Target.isReserved segment then
      .error (.reservedWord segment role (locate source name start))
    else match Target.identifierFault? segment with
      | some fault => .error (.invalidIdentifier name role fault (locate source name start))
      | none => checkSegments source name role start segments

/-- A qualified name has segments, and all of them are well formed. -/
def checkQualifiedName (source : List Char) (name : String) (role : NameRole) (start : Nat) :
    Except ManifestFault Unit :=
  if name = "" then .error (.invalidIdentifier name role .empty none)
  else checkSegments source name role start (Text.segments name)

/-- Whether a package encloses a name: it is the default package, or the name goes on behind it with
a dot. -/
def encloses (package name : String) : Bool :=
  package == "" || ((Text.dropPrefix? package name).bind (Text.dropPrefix? ".")).isSome

/-- An explicit package encloses the host. -/
def checkPackage (source : List Char) (d : HostDecl) (start : Nat) : Except ManifestFault Unit :=
  match d.package with
  | some package =>
    if encloses package d.name then .ok ()
    else .error (.packageMismatch package d.name (locate source package start))
  | none => .ok ()

/-- A field has a well-formed name and a type that is not blank. -/
def checkField (source : List Char) (host : String) (start : Nat) (f : FieldDecl) :
    Except ManifestFault Unit := do
  checkName source f.name (.fieldOf host) start
  if Text.isAllBlank f.type then
    .error (.blankType f.name host (locate source f.name start))

/-- The package and the fields of a host are in order. -/
def checkHost (source : List Char) (d : HostDecl) (start : Nat) : Except ManifestFault Unit := do
  checkPackage source d start
  d.fields.forM (checkField source d.name start)

/-- The hosts are in order, after those in `seen`. With each name seen goes the place from which a
search finds it again; `cursor` is where the previous host was found. -/
def checkHosts (source : List Char) :
    (cursor : Nat) → (seen : List (String × Nat)) → List HostDecl → Except ManifestFault Unit
  | _, _, [] => .ok ()
  | cursor, seen, d :: ds =>
    let span := locate source d.name cursor
    let offset := (span.map Span.offset).getD cursor
    match seen.lookup d.name with
    | some first => .error (.duplicateHost d.name (locate source d.name first) span)
    | none => do
      checkQualifiedName source d.name .host cursor
      checkHost source d offset
      checkHosts source offset ((d.name, offset - 1) :: seen) ds

end Validation

/-- The first rule that a manifest read from `source` breaks. -/
def Manifest.check (m : Manifest) (source : String) : Except ManifestFault Unit :=
  Validation.checkHosts source.toList 0 [] m.hosts

end Bindery

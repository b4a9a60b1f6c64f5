import Bindery.Binding.Store

/-!
# The bindings of a host

One store per binding kind collects the fields of a host. When all fields are in, the binder class
is put together: the stores are asked in the order of the kinds, and the first one that does not fit
the host ends the work.

## Main definitions

* `HostBindings.add`, `HostBindings.addMarked`: route a field to the store of its kind
* `BinderContext`: the naming rules and the class builders that an assembly works with
* `HostBindings.assemble`: drive a class builder through the parts of the binder
* `HostBindings.binder`, `binderIn`, `binderOf`: the binder of a host
-/

namespace Bindery

/-- One store per binding kind. -/
structure Stores where
  view : Store := {}
  preference : Store := {}
  extra : Store := {}
  instanceState : Store := {}
  nonConfiguration : Store := {}
  service : Store := {}
  deriving DecidableEq, Repr, Inhabited

namespace Stores

/-- The store of a kind. -/
def get (stores : Stores) : BindingKind → Store
  | .view => stores.view
  | .preference => stores.preference
  | .extra => stores.extra
  | .instanceState => stores.instanceState
  | .nonConfiguration => stores.nonConfiguration
  | .service => stores.service

/-- The stores with the one of a kind replaced. -/
def set (stores : Stores) (kind : BindingKind) (store : Store) : Stores :=
  match kind with
  | .view => { stores with view := store }
  | .preference => { stores with preference := store }
  | .extra => { stores with extra := store }
  | .instanceState => { stores with instanceState := store }
  | .nonConfiguration => { stores with nonConfiguration := store }
  | .service => { stores with service := store }

/-- The stores in emission order. -/
def toList (stores : Stores) : List Store :=
  BindingKind.all.map stores.get

/-- The warnings of all stores, in emission order. -/
def warnings (stores : Stores) : Warnings :=
  stores.toList.foldl (fun ws store => ws.merge store.warnings) .empty

end Stores

/-- A host with the fields accepted so far. -/
structure HostBindings where
  /-- The host. -/
  host : Host
  /-- The options that the bodies of methods follow. -/
  options : Options := {}
  /-- The accepted fields. -/
  stores : Stores := {}
  deriving DecidableEq, Repr, Inhabited

/-- What the assembly of a binder needs of its surroundings: options, names for hosts, and a way to
open a class. Unless the context has rules of its own, a binder is placed next to its host. -/
structure BinderContext (β : Type) where
  /-- The options that the class header follows. -/
  options : Options := {}
  /-- The package that the binder of a host goes into. -/
  packageOf : Host → String := Host.package
  /-- The name of a host's class, seen from a package. -/
  classNameIn : Host → String → String := Host.classNameIn
  /-- Open a class of a given name. -/
  openClass : String → β

namespace BinderContext

/-- The name of the binder class of a host. -/
def binderName {β : Type} (context : BinderContext β) (host : Host) : String :=
  context.classNameIn host (context.packageOf host) ++ "$$Binder"

/-- Describe the class itself. -/
def describing (options : Options) : BinderContext ClassSpec :=
  { options, openClass := ClassSpec.opened }

/-- Record every call, from the opening on. -/
def recording : BinderContext Recording :=
  { openClass := Recording.openedNoted }

end BinderContext

namespace HostBindings

/-- Offer `f` to the store of `kind`. -/
def add (bindings : HostBindings) (kind : BindingKind) (f : Field) :
    Except BindingError HostBindings :=
  match (bindings.stores.get kind).add kind f with
  | .ok store => .ok { bindings with stores := bindings.stores.set kind store }
  | .error reason => .error (.rejected kind bindings.host.qualifiedName f.name reason)

/-- Offer `f` to the store that a marker selects. -/
def addMarked (bindings : HostBindings) (marker : String) (f : Field) :
    Except BindingError HostBindings :=
  match BindingKind.ofMarker? marker with
  | some kind => bindings.add kind f
  | none => .error (.unknownMarker marker)

/-- Offer fields one after the other; the first refusal ends the work. -/
def addAllMarked (bindings : HostBindings) (marked : List (String × Field)) :
    Except BindingError HostBindings :=
  marked.foldlM (fun bs m => bs.addMarked m.1 m.2) bindings

/-- The name of the binder class that is placed next to its host. -/
def binderName (host : Host) : String :=
  host.classNameIn host.package ++ "$$Binder"

/-- The class after the stores of some kinds have added their members, up to the first that does not
fit. -/
def emitAll {β : Type} [ClassBuilder β] (bindings : HostBindings) :
    List BindingKind → β → Except BindingError Unit × β
  | [], b => (.ok (), b)
  | kind :: kinds, b =>
    match (bindings.stores.get kind).emit kind bindings.host bindings.options b with
    | (.ok (), b) => emitAll bindings kinds b
    | (.error e, b) => (.error e, b)

/-- The class whose members are complete: its annotation is added and it is closed. -/
def finish {β : Type} [ClassBuilder β] (bindings : HostBindings) (b : β) : ClassSpec × β :=
  ClassBuilder.build
    (match bindings.stores.warnings.suppression? with
      | some a => ClassBuilder.annotate b a
      | none => b)

/-- Put the binder together in a context. The builder is given back as it was left, so that the
calls made before a failure can be looked at. -/
def assemble {β : Type} [ClassBuilder β] (bindings : HostBindings) (context : BinderContext β) :
    Except BindingError ClassSpec × β :=
  let opened := context.openClass (context.binderName bindings.host)
  let header :=
    ClassBuilder.setSuperclass (ClassBuilder.addModifiers opened [.isPublic, .isFinal])
      context.options.binderClass
  match bindings.emitAll BindingKind.all header with
  | (.ok (), b) =>
    let (spec, b) := bindings.finish b
    (.ok spec, b)
  | (.error e, b) => (.error e, b)

/-- The binder of the host. -/
def binder (bindings : HostBindings) (options : Options) : Except BindingError ClassSpec :=
  (bindings.assemble (.describing options)).1

end HostBindings

/-- The binder of a host with the given marked fields, in a context. The first error ends the
work. -/
def binderIn {β : Type} [ClassBuilder β] (context : BinderContext β) (host : Host)
    (marked : List (String × Field)) : Except BindingError ClassSpec := do
  let bindings ← HostBindings.addAllMarked { host, options := context.options } marked
  (bindings.assemble context).1

/-- The binder of a host with the given marked fields, as a class description. -/
def binderOf (options : Options) (host : Host) (marked : List (String × Field)) :
    Except BindingError ClassSpec :=
  binderIn (.describing options) host marked

end Bindery

import Bindery.Binding.HostBindings

/-!
# Steps on the bindings of a host

The bindings of a host are collected step by step: a field is offered to a kind, or with a marker.
Here a step works in place. It looks at the rules one after the other and changes the bindings as it
goes, so a refusal keeps whatever was changed before it. A run goes on after a refused step.

## Main definitions

* `BindingStep`: a step as a value
* `Store.offer`, `HostBindings.offer`, `BindingStep.perform`: the effect of a step
* `HostBindings.run`: the bindings after a sequence of steps
* `HostBindings.accepted`, `HostBindings.acceptedFor`: the steps of a run that are not refused, and
  the fields they offer to a kind
-/

namespace Bindery

/-- A step on the bindings of a host. -/
inductive BindingStep where
  /-- Offer a field to a kind. -/
  | add (kind : BindingKind) (f : Field)
  /-- Offer a field to the kind that a marker selects. -/
  | addMarked (marker : String) (f : Field)
  deriving DecidableEq, Repr, Inhabited

/-- Offer `f` to the store at hand: the rules come first, then the warnings and the field go in. -/
def Store.offer (kind : BindingKind) (f : Field) : ExceptT Rejection (StateM Store) Unit := do
  let store ← get
  ofExcept (store.checkShared f)
  ofExcept (kind.check f)
  modify fun store => { store with warnings := store.warnings.insertAll (kind.warnings f) }
  modify fun store => { store with fields := store.fields ++ [f] }

/-- Offer `f` to the store of `kind`, which is left as the offer leaves it. -/
def HostBindings.offer (kind : BindingKind) (f : Field) :
    ExceptT BindingError (StateM HostBindings) Unit := do
  let bindings ← get
  let (outcome, store) := (Store.offer kind f).run.run (bindings.stores.get kind)
  set { bindings with stores := bindings.stores.set kind store }
  ofExcept (outcome.mapError (.rejected kind bindings.host.qualifiedName f.name))

namespace BindingStep

/-- The field that a step offers. -/
def field : BindingStep → Field
  | add _ f => f
  | addMarked _ f => f

/-- The kind that a step offers its field to, if there is one. -/
def kind? : BindingStep → Option BindingKind
  | add kind _ => some kind
  | addMarked marker _ => BindingKind.ofMarker? marker

/-- The effect of a step. -/
def perform : BindingStep → ExceptT BindingError (StateM HostBindings) Unit
  | add kind f => HostBindings.offer kind f
  | addMarked marker f =>
    match BindingKind.ofMarker? marker with
    | some kind => HostBindings.offer kind f
    | none => throw (.unknownMarker marker)

end BindingStep

namespace HostBindings

/-- What a step answers, and the bindings that it leaves. -/
def performOn (bindings : HostBindings) (s : BindingStep) :
    Except BindingError Unit × HostBindings :=
  s.perform.run.run bindings

/-- The bindings after some steps; refused steps are passed over. -/
def run (bindings : HostBindings) (steps : List BindingStep) : HostBindings :=
  steps.foldl (fun bs s => (bs.performOn s).2) bindings

/-- The steps of a run that are not refused. -/
def accepted (bindings : HostBindings) : List BindingStep → List BindingStep
  | [] => []
  | s :: ss =>
    match bindings.performOn s with
    | (.ok (), after) => s :: after.accepted ss
    | (.error _, after) => after.accepted ss

/-- The fields that the accepted steps of a run offer to a kind, in order. -/
def acceptedFor (bindings : HostBindings) (steps : List BindingStep) (kind : BindingKind) :
    List Field :=
  ((bindings.accepted steps).filter fun s => s.kind? == some kind).map (·.field)

end HostBindings

end Bindery

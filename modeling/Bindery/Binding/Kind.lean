import Bindery.Text.Basic

/-!
# Binding kinds

A bound field is assigned from one of six sources. Each kind has a display name and a marker, the
annotation that selects it in a declaration. A marker may be written with the package it lives in.

## Main definitions

* `BindingKind`, `BindingKind.all`: the kinds, in the order their members are emitted
* `BindingKind.ofMarker?`: the kind that a marker selects
-/

namespace Bindery

/-- Where the value of a bound field comes from. -/
inductive BindingKind where
  /-- The view with a resource id, below the root view of the host. -/
  | view
  /-- A value stored in shared preferences. -/
  | preference
  /-- An extra the host was started with. -/
  | extra
  /-- A value kept in the saved instance state. -/
  | instanceState
  /-- A value handed over to the next instance of the host. -/
  | nonConfiguration
  /-- A system service. -/
  | service
  deriving DecidableEq, Repr, Inhabited

namespace BindingKind

/-- The kinds in emission order. -/
def all : List BindingKind :=
  [view, preference, extra, instanceState, nonConfiguration, service]

/-- The name shown in messages. -/
def name : BindingKind → String
  | view => "view"
  | preference => "preference"
  | extra => "extra"
  | instanceState => "instance"
  | nonConfiguration => "non-configuration instance"
  | service => "service"

/-- The marker that selects the kind. -/
def marker : BindingKind → String
  | view => "BindView"
  | preference => "BindPreference"
  | extra => "BindExtra"
  | instanceState => "BindInstance"
  | nonConfiguration => "BindNonConfigurationInstance"
  | service => "BindService"

/-- The place of the kind in emission order. -/
def index (kind : BindingKind) : Nat :=
  all.idxOf kind

/-- What stands in front of a marker that is written with its package. -/
def markerQualifier : String := "me.oriley.shiv."

/-- The kind that a marker selects; the qualifier in front is removed at most once. -/
def ofMarker? (written : String) : Option BindingKind :=
  let bare := (Text.dropPrefix? markerQualifier written).getD written
  all.find? fun kind => kind.marker == bare

end BindingKind

end Bindery

import Bindery.Binding.Warnings
import Bindery.Category.Basic
import Bindery.Class.Builder

/-!
# Stores

The accepted fields of one host and one kind, with the warnings they cause. A store only grows, and
a refused field leaves it as it was. The store does not know its kind; whoever holds the store does.

## Main definitions

* `Store.add`: accept or refuse a field
* `Store.emit`: add the members for the accepted fields to a class
-/

namespace Bindery

/-- The fields accepted for one binding kind. -/
structure Store where
  /-- The accepted fields, oldest first. -/
  fields : List Field := []
  /-- The warnings that the accepted fields cause. -/
  warnings : Warnings := .empty
  deriving DecidableEq, Repr, Inhabited

namespace Store

/-- The rules that all kinds share: the field can be assigned, and its name is new to the store. -/
def checkShared (store : Store) (f : Field) : Except Rejection Unit :=
  if f.hasModifier .isPrivate then .error .privateField
  else if f.hasModifier .isStatic then .error .staticField
  else if f.hasModifier .isFinal then .error .finalField
  else if store.fields.any fun g => g.name == f.name then .error .duplicate
  else .ok ()

/-- The first rule that `f` breaks: the shared rules come before those of the kind. -/
def check (store : Store) (kind : BindingKind) (f : Field) : Except Rejection Unit := do
  store.checkShared f
  kind.check f

/-- The store with `f` at the end, or the reason why `f` is refused. -/
def add (store : Store) (kind : BindingKind) (f : Field) : Except Rejection Store := do
  store.check kind f
  return {
    fields := store.fields ++ [f]
    warnings := store.warnings.insertAll (kind.warnings f) }

/-- The members for the accepted fields. An empty store has none and fits every host. -/
def members (store : Store) (kind : BindingKind) (host : Host) (options : Options) :
    Except BindingError (List Member) :=
  if store.fields.isEmpty then .ok []
  else if kind.supports host.kind then .ok (kind.members host options store.fields)
  else .error (.unsupportedHost kind host.qualifiedName host.kind)

/-- The class with the members for the accepted fields added, and whether that was possible. -/
def emit {β : Type} [ClassBuilder β] (store : Store) (kind : BindingKind) (host : Host)
    (options : Options) (b : β) : Except BindingError Unit × β :=
  match store.members kind host options with
  | .ok ms => (.ok (), ClassBuilder.addMembers b ms)
  | .error e => (.error e, b)

end Store

end Bindery

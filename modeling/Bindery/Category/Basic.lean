import Bindery.Category.Extra
import Bindery.Category.InstanceState
import Bindery.Category.NonConfiguration
import Bindery.Category.Preference
import Bindery.Category.Service
import Bindery.Category.View

/-!
# The rules of each kind

Every binding kind answers the same questions: which fields it accepts, which warnings a field
causes, which hosts it supports, and which members its fields lead to.
-/

namespace Bindery.BindingKind

/-- Whether a field can carry a binding of the kind, apart from the rules all kinds share. -/
def check : BindingKind → Field → Except Rejection Unit
  | view => Category.View.check
  | preference => Category.Preference.check
  | extra => Category.Extra.check
  | instanceState => Category.InstanceState.check
  | nonConfiguration => Category.NonConfiguration.check
  | service => Category.Service.check

/-- The warnings that generated source has to suppress for a field of the kind. -/
def warnings : BindingKind → Field → List String
  | view => Category.View.warnings
  | preference => Category.Preference.warnings
  | extra => Category.Extra.warnings
  | instanceState => Category.InstanceState.warnings
  | nonConfiguration => Category.NonConfiguration.warnings
  | service => Category.Service.warnings

/-- Whether a host of the given role can carry bindings of the kind. -/
def supports : BindingKind → HostKind → Bool
  | view => Category.View.supports
  | preference => Category.Preference.supports
  | extra => Category.Extra.supports
  | instanceState => Category.InstanceState.supports
  | nonConfiguration => Category.NonConfiguration.supports
  | service => Category.Service.supports

/-- The members of a binder for the fields of the kind. -/
def members (kind : BindingKind) (host : Host) (options : Options) (fields : List Field) :
    List Member :=
  match kind with
  | view => Category.View.members host options fields
  | preference => Category.Preference.members host fields
  | extra => Category.Extra.members host options fields
  | instanceState => Category.InstanceState.members host fields
  | nonConfiguration => Category.NonConfiguration.members host fields
  | service => Category.Service.members host fields

end Bindery.BindingKind

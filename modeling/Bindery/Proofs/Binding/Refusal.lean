import Bindery.Proofs.Binding.Emission

/-!
# Why a field is refused

A field is refused for the first reason that applies to it, in a fixed order: first those that all
kinds share, then those of its kind. Only one of them looks at the fields accepted before, and of
these only at their names; the others look at the field alone. So what is refused and why depends on
a run only through the names that it has taken.

## Main definitions

* `Category.Preference.storable`, `Target.primitiveNames`, `Category.Service.known`: the types that
  the reasons ask for
* `Rejection.Applies`: a reason applies to a field, given the names taken
* `BindingKind.reasons`: the reasons of a kind, in the order in which they are looked at
* `BindingKind.Suits`: a field has what its kind asks for

## Main results

* `Store.check_eq_refusal`: the check of a store answers the first reason that applies
* `HostBindings.add_answers_first_reason`: an offer behind any run is refused for the first reason
  that applies, and accepted if there is none
-/

namespace Bindery

/-- A field has no key: an empty one counts as none. -/
def Field.Unkeyed (f : Field) : Prop := f.key = none ∨ f.key = some ""

instance (f : Field) : Decidable f.Unkeyed := inferInstanceAs (Decidable (_ ∨ _))

/-- The types that preferences store. -/
def Category.Preference.storable : List String :=
  ["boolean", "java.lang.Boolean", "int", "java.lang.Integer", "long", "java.lang.Long", "float",
    "java.lang.Float", "java.lang.String", "java.util.Set<java.lang.String>"]

/-- The types that are no reference types. -/
def Target.primitiveNames : List String :=
  ["boolean", "byte", "char", "short", "int", "long", "float", "double"]

/-- The types of services that are found without a key. -/
def Category.Service.known : List String :=
  ["android.view.LayoutInflater", "android.app.NotificationManager", "android.app.AlarmManager",
    "android.net.ConnectivityManager", "android.view.inputmethod.InputMethodManager",
    "android.os.Vibrator", "android.view.WindowManager", "android.content.ClipboardManager",
    "android.media.AudioManager", "android.location.LocationManager"]

/-- A reason applies to a field, where fields of the names `taken` are bound already. -/
def Rejection.Applies (taken : List String) (f : Field) : Rejection → Prop
  | privateField => .isPrivate ∈ f.modifiers
  | staticField => .isStatic ∈ f.modifiers
  | finalField => .isFinal ∈ f.modifiers
  | duplicate => f.name ∈ taken
  | missingViewId => f.id = none
  | invalidViewId id => f.id = some id ∧ ¬ (0 < id ∧ id ≤ 2147483647)
  | missingKey => f.Unkeyed
  | unsupportedType type => type = f.type ∧ type ∉ Category.Preference.storable
  | primitiveType type => type = f.type ∧ type ∈ Target.primitiveNames
  | unknownService type => type = f.type ∧ f.Unkeyed ∧ type ∉ Category.Service.known

instance (taken : List String) (f : Field) : ∀ r : Rejection, Decidable (r.Applies taken f)
  | .privateField | .staticField | .finalField => inferInstanceAs (Decidable (_ ∈ f.modifiers))
  | .duplicate => inferInstanceAs (Decidable (_ ∈ taken))
  | .missingViewId => inferInstanceAs (Decidable (_ = none))
  | .missingKey => inferInstanceAs (Decidable f.Unkeyed)
  | .invalidViewId _ | .unsupportedType _ | .primitiveType _ | .unknownService _ =>
    inferInstanceAs (Decidable (_ ∧ _))

namespace BindingKind

/-- The reasons of a kind alone, in the order in which they are looked at. -/
def ownReasons (f : Field) : BindingKind → List Rejection
  | view => .missingViewId :: (f.id.map .invalidViewId).toList ++ [.primitiveType f.type]
  | preference => [.missingKey, .unsupportedType f.type]
  | service => [.primitiveType f.type, .unknownService f.type]
  | extra | instanceState | nonConfiguration => []

/-- The reasons to refuse a field, in the order in which they are looked at. -/
def reasons (kind : BindingKind) (f : Field) : List Rejection :=
  [.privateField, .staticField, .finalField, .duplicate] ++ kind.ownReasons f

/-- A field has what its kind asks for. -/
def Suits (f : Field) : BindingKind → Prop
  | view =>
    (∃ id, f.id = some id ∧ 0 < id ∧ id ≤ 2147483647) ∧ f.type ∉ Target.primitiveNames
  | preference =>
    (∃ key, f.key = some key ∧ key ≠ "") ∧ f.type ∈ Category.Preference.storable
  | service =>
    f.type ∉ Target.primitiveNames ∧
      ((∃ key, f.key = some key ∧ key ≠ "") ∨ f.type ∈ Category.Service.known)
  | extra | instanceState | nonConfiguration => True

end BindingKind

/-- The first reason that applies to a field, if there is one. -/
def BindingKind.reason? (kind : BindingKind) (taken : List String) (f : Field) : Option Rejection :=
  (kind.reasons f).find? fun r => r.Applies taken f

/-! ## Checks as lists of reasons -/

/-- The answer to a field, given the reason to refuse it if there is one. -/
def refusal : Option Rejection → Except Rejection Unit
  | none => .ok ()
  | some reason => .error reason

theorem refusal_or (a b : Option Rejection) :
    refusal (a.or b) = refusal a >>= fun _ => refusal b := by
  cases a <;> rfl

/-- A reason in front of others, as a branch in front of other branches. -/
theorem refusal_find?_cons (p : Rejection → Bool) (r : Rejection) (rs : List Rejection) :
    refusal ((r :: rs).find? p) = if p r then .error r else refusal (rs.find? p) := by
  rw [List.find?_cons]
  cases p r <;> rfl

section Answers

variable {taken : List String} {f : Field}

theorem Field.hasModifier_eq_decide (m : FieldModifier) :
    f.hasModifier m = decide (m ∈ f.modifiers) :=
  List.contains_eq_mem m f.modifiers

theorem Field.unkeyed_iff_isNone : f.Unkeyed ↔ f.explicitKey.isNone = true := by
  rw [Option.isNone_iff_eq_none, explicitKey_eq_none_iff, Unkeyed]

theorem Field.not_unkeyed_iff : ¬ f.Unkeyed ↔ ∃ key, f.key = some key ∧ key ≠ "" := by
  rw [Unkeyed]
  cases f.key with
  | none => simp
  | some key => simp

theorem Target.mem_primitiveNames_iff {type : String} :
    type ∈ primitiveNames ↔ isPrimitive type = true := by
  have hnames : primitiveNames = primitives.map Prod.fst := rfl
  rw [hnames, isPrimitive, List.any_eq_true, List.mem_map]
  simp only [beq_iff_eq]

/-- Preferences have an accessor exactly for the types that they store. -/
theorem Category.Preference.isNone_accessor?_iff {type : String} :
    (accessor? type).isNone = true ↔ type ∉ storable := by
  rw [Option.isNone_iff_eq_none, accessor?, List.lookup_eq_none_iff]
  simp [accessors, stringSet, storable]

/-- A service has a name unless it has no key and its type is not known. -/
theorem Category.Service.isNone_nameExpression?_iff :
    (nameExpression? f).isNone = true ↔ f.Unkeyed ∧ f.type ∉ known := by
  have hlookup : constants.lookup f.type = none ↔ f.type ∉ known := by
    rw [List.lookup_eq_none_iff]
    simp [constants, known]
  rw [Field.unkeyed_iff_isNone, nameExpression?]
  cases f.explicitKey with
  | some key => simp
  | none => simp [hlookup]

theorem Store.checkShared_eq_refusal (store : Store) (f : Field) :
    store.checkShared f =
      refusal ([.privateField, .staticField, .finalField, .duplicate].find? fun r =>
        r.Applies (store.fields.map (·.name)) f) := by
  have hnew : (store.fields.any fun g => g.name == f.name) =
      decide (f.name ∈ store.fields.map (·.name)) := by
    rw [Bool.eq_iff_iff]
    simp
  simp only [refusal_find?_cons, Store.checkShared, Field.hasModifier_eq_decide, hnew]
  rfl

theorem BindingKind.check_eq_refusal (kind : BindingKind) (taken : List String) (f : Field) :
    kind.check f = refusal ((kind.ownReasons f).find? fun r => r.Applies taken f) := by
  cases kind with
  | view =>
    rw [check, Category.View.check, ownReasons]
    cases hid : f.id with
    | none =>
      have hfirst : Rejection.missingViewId.Applies taken f := hid
      rw [List.cons_append, refusal_find?_cons, if_pos (decide_eq_true hfirst)]
    | some id =>
      have hrange : (id ≤ 0 ∨ id > Category.View.maxId) ↔ ¬ (0 < id ∧ id ≤ 2147483647) := by
        rw [Category.View.maxId]
        omega
      simp only [Option.map_some, Option.toList_some, List.cons_append, List.nil_append,
        refusal_find?_cons, Rejection.Applies, hid, reduceCtorEq, decide_false,
        Bool.false_eq_true, if_false, true_and, decide_eq_true_eq, hrange,
        Target.mem_primitiveNames_iff]
      rfl
  | preference =>
    simp only [check, Category.Preference.check, ownReasons, refusal_find?_cons,
      Rejection.Applies, decide_eq_true_eq, true_and, Field.unkeyed_iff_isNone,
      Category.Preference.isNone_accessor?_iff]
    rfl
  | service =>
    simp only [check, Category.Service.check, ownReasons, refusal_find?_cons,
      Rejection.Applies, decide_eq_true_eq, true_and, Target.mem_primitiveNames_iff,
      Category.Service.isNone_nameExpression?_iff]
    rfl
  | extra | instanceState | nonConfiguration => rfl

/-- The check of a store answers the first reason that applies. -/
theorem Store.check_eq_refusal (store : Store) (kind : BindingKind) (f : Field) :
    store.check kind f = refusal (kind.reason? (store.fields.map (·.name)) f) := by
  rw [BindingKind.reason?, BindingKind.reasons, List.find?_append, refusal_or,
    ← checkShared_eq_refusal, ← BindingKind.check_eq_refusal]
  rfl

/-- No reason of a kind applies exactly if the field has what the kind asks for. -/
theorem BindingKind.suits_iff {kind : BindingKind} :
    kind.Suits f ↔ ∀ r ∈ kind.ownReasons f, ¬ r.Applies taken f := by
  cases kind with
  | view =>
    rw [Suits, ownReasons]
    cases hid : f.id with
    | none => simp [Rejection.Applies, hid]
    | some id => simp [Rejection.Applies, hid]
  | preference => simp [Suits, ownReasons, Rejection.Applies, Field.not_unkeyed_iff]
  | service =>
    rw [Suits, ownReasons, ← Field.not_unkeyed_iff]
    by_cases hkey : f.Unkeyed
    · simp [Rejection.Applies, hkey]
    · simp [Rejection.Applies, hkey]
  | extra | instanceState | nonConfiguration => simp [Suits, ownReasons]

/-- No reason applies exactly if the field can be assigned, its name is free, and it has what its
kind asks for. -/
theorem BindingKind.reason?_eq_none_iff {kind : BindingKind} :
    kind.reason? taken f = none ↔
      .isPrivate ∉ f.modifiers ∧ .isStatic ∉ f.modifiers ∧ .isFinal ∉ f.modifiers ∧
        f.name ∉ taken ∧ kind.Suits f := by
  rw [reason?, List.find?_eq_none]
  simp only [decide_eq_true_eq]
  rw [reasons, List.forall_mem_append, ← suits_iff]
  simp only [List.forall_mem_cons, Rejection.Applies, and_assoc]
  simp

end Answers

/-- A number that is too large for an id comes before a type that is no view. -/
example : BindingKind.view.reason? ["title"]
      { name := "count", type := "int", id := some 2147483648 } =
    some (.invalidViewId 2147483648) := by
  decide

namespace HostBindings

variable {bindings : HostBindings} {kind : BindingKind} {f : Field}

/-- An offer answers the first reason that applies, where the names of its kind are taken. -/
theorem add_eq_error_iff {e : BindingError} :
    bindings.add kind f = .error e ↔
      ∃ reason, kind.reason? ((bindings.stores.get kind).fields.map (·.name)) f = some reason ∧
        e = .rejected kind bindings.host.qualifiedName f.name reason := by
  rw [add, Store.add, Store.check_eq_refusal]
  cases kind.reason? ((bindings.stores.get kind).fields.map (·.name)) f with
  | none => simp [refusal, bind, Except.bind, pure, Except.pure]
  | some reason => simp [refusal, bind, Except.bind, eq_comm]

theorem exists_add_eq_ok_iff :
    (∃ after, bindings.add kind f = .ok after) ↔
      kind.reason? ((bindings.stores.get kind).fields.map (·.name)) f = none := by
  rw [add, Store.add, Store.check_eq_refusal]
  cases kind.reason? ((bindings.stores.get kind).fields.map (·.name)) f with
  | none => simp [refusal, bind, Except.bind, pure, Except.pure]
  | some reason => simp [refusal, bind, Except.bind]

/-- **An offer is refused for the first reason that applies.** Behind any run on the bindings of a
host, a field is accepted exactly if it has no modifier that forbids an assignment, no field of its
name was accepted for the kind, and it has what the kind asks for. Otherwise the answer names the
kind, the host, the field, and the first reason that applies in the order in which the reasons are
looked at. -/
theorem add_answers_first_reason (host : Host) (options : Options) (steps : List BindingStep)
    (kind : BindingKind) (f : Field) :
    let bindings := run { host, options } steps
    let taken := (acceptedFor { host, options } steps kind).map (·.name)
    ((∃ after, bindings.add kind f = .ok after) ↔
        .isPrivate ∉ f.modifiers ∧ .isStatic ∉ f.modifiers ∧ .isFinal ∉ f.modifiers ∧
          f.name ∉ taken ∧ kind.Suits f) ∧
      ∀ error, bindings.add kind f = .error error ↔
        ∃ reason, (kind.reasons f).find? (fun r => r.Applies taken f) = some reason ∧
          error = .rejected kind host.qualifiedName f.name reason := by
  intro bindings taken
  have htaken : (bindings.stores.get kind).fields.map (·.name) = taken := by
    rw [fields_run_start]
  refine ⟨?_, fun error => ?_⟩
  · rw [exists_add_eq_ok_iff, htaken]
    exact BindingKind.reason?_eq_none_iff
  · rw [add_eq_error_iff, htaken, (host_options_run _ steps).1]
    rfl

end HostBindings

end Bindery

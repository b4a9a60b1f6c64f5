import Bindery.Proofs.Binding.Assembly
import Bindery.Proofs.Binding.Run

/-!
# The order of bindings

The stores of a host do not know of each other: whether marked fields are accepted, and what the
stores hold then, depends for each kind on the fields offered to that kind alone. So bindings of
different kinds may change places. The binder stays the same, and an error cannot be hidden behind
another order.

## Main definitions

* `HostBindings.offeredTo`: the fields that marked fields offer to a kind
* `Store.addAll`: the store after several offers
* `HostBindings.Reordering`: the same marked fields, with the order kept inside each kind

## Main results

* `addAllMarked_eq_ok_iff`: marked fields are accepted exactly if each store accepts its own
* `exists_run_of_binderOf`: the binder of a host is put together after a run
* `binderIn_of_reordering`: reordered bindings lead to the same binder
-/

namespace Bindery

theorem Stores.ext_get {stores other : Stores} (h : ∀ kind, stores.get kind = other.get kind) :
    stores = other := by
  obtain ⟨v, p, x, i, n, s⟩ := stores
  obtain ⟨v', p', x', i', n', s'⟩ := other
  rw [Stores.mk.injEq]
  exact ⟨h .view, h .preference, h .extra, h .instanceState, h .nonConfiguration, h .service⟩

/-- The store after fields are offered one after the other; the first refusal ends the work. -/
def Store.addAll (store : Store) (kind : BindingKind) (fields : List Field) :
    Except Rejection Store :=
  fields.foldlM (fun s f => s.add kind f) store

theorem Store.addAll_cons (store : Store) (kind : BindingKind) (f : Field) (fields : List Field) :
    store.addAll kind (f :: fields) = (store.add kind f >>= fun next => next.addAll kind fields) :=
  List.foldlM_cons

namespace HostBindings

/-- The fields that a list of marked fields offers to a kind, in order. -/
def offeredTo (marked : List (String × Field)) (kind : BindingKind) : List Field :=
  (marked.filter fun m => BindingKind.ofMarker? m.1 = some kind).map Prod.snd

theorem offeredTo_cons_self {kind : BindingKind} {m : String × Field}
    (h : BindingKind.ofMarker? m.1 = some kind) (ms : List (String × Field)) :
    offeredTo (m :: ms) kind = m.2 :: offeredTo ms kind := by
  simp [offeredTo, h]

theorem offeredTo_cons_of_ne {kind : BindingKind} {m : String × Field}
    (h : BindingKind.ofMarker? m.1 ≠ some kind) (ms : List (String × Field)) :
    offeredTo (m :: ms) kind = offeredTo ms kind := by
  simp [offeredTo, h]

/-- The same marked fields in another order, which is kept inside each kind. Fields whose marker
selects no kind may stand anywhere. -/
structure Reordering (marked reordered : List (String × Field)) : Prop where
  perm : marked.Perm reordered
  order : ∀ kind,
    (marked.filter fun m => BindingKind.ofMarker? m.1 = some kind) =
      reordered.filter fun m => BindingKind.ofMarker? m.1 = some kind

variable {bindings after : HostBindings}

theorem addAllMarked_cons (bindings : HostBindings) (m : String × Field)
    (ms : List (String × Field)) :
    bindings.addAllMarked (m :: ms) =
      (bindings.addMarked m.1 m.2 >>= fun next => next.addAllMarked ms) :=
  List.foldlM_cons

theorem addMarked_of_kind {kind : BindingKind} {marker : String}
    (h : BindingKind.ofMarker? marker = some kind) (f : Field) :
    bindings.addMarked marker f = bindings.add kind f := by
  rw [addMarked, h]

/-- **Each store accepts its own.** Marked fields are accepted exactly if every marker selects a
kind and the store of each kind accepts the fields offered to it; the stores of the outcome are
these. -/
theorem addAllMarked_eq_ok_iff {marked : List (String × Field)} :
    bindings.addAllMarked marked = .ok after ↔
      (∀ m ∈ marked, BindingKind.ofMarker? m.1 ≠ none) ∧
        after.host = bindings.host ∧ after.options = bindings.options ∧
          ∀ kind, (bindings.stores.get kind).addAll kind (offeredTo marked kind) =
            .ok (after.stores.get kind) := by
  induction marked generalizing bindings with
  | nil =>
    obtain ⟨host, options, stores⟩ := bindings
    obtain ⟨host', options', stores'⟩ := after
    constructor
    · intro h
      obtain ⟨rfl, rfl, rfl⟩ := HostBindings.mk.inj (Except.ok.inj h)
      exact ⟨by simp, rfl, rfl, fun _ => rfl⟩
    · rintro ⟨-, rfl, rfl, hstores⟩
      obtain rfl : stores = stores' := Stores.ext_get fun kind => Except.ok.inj (hstores kind)
      rfl
  | cons m ms ih =>
    rw [addAllMarked_cons]
    cases hkind : BindingKind.ofMarker? m.1 with
    | none =>
      rw [addMarked, hkind]
      refine iff_of_false (by simp [bind, Except.bind]) ?_
      rintro ⟨hmarkers, -⟩
      exact hmarkers m List.mem_cons_self hkind
    | some kind =>
      rw [addMarked_of_kind hkind, add]
      cases hstore : (bindings.stores.get kind).add kind m.2 with
      | error reason =>
        refine iff_of_false (by simp [bind, Except.bind]) ?_
        rintro ⟨-, -, -, hstores⟩
        have h := hstores kind
        rw [offeredTo_cons_self hkind, Store.addAll_cons, hstore] at h
        simp [bind, Except.bind] at h
      | ok store =>
        have hrest : ∀ other,
            ((bindings.stores.set kind store).get other).addAll other (offeredTo ms other) =
              (bindings.stores.get other).addAll other (offeredTo (m :: ms) other) := by
          intro other
          by_cases hother : other = kind
          · subst hother
            rw [offeredTo_cons_self hkind, Store.addAll_cons, hstore, Stores.get_set_self]
            rfl
          · have hne : BindingKind.ofMarker? m.1 ≠ some other := by
              rw [hkind]
              exact fun h => hother (Option.some.inj h).symm
            rw [offeredTo_cons_of_ne hne, Stores.get_set_of_ne _ _ hother]
        have hmarker : BindingKind.ofMarker? m.1 ≠ none := by simp [hkind]
        change addAllMarked { bindings with stores := bindings.stores.set kind store } ms = _ ↔ _
        rw [ih, List.forall_mem_cons]
        simp only [hrest, hmarker, ne_eq, not_false_eq_true, true_and]

/-- Marked fields that are all accepted are added by a run. -/
theorem run_of_addAllMarked {marked : List (String × Field)}
    (h : bindings.addAllMarked marked = .ok after) :
    bindings.run (marked.map fun m => .addMarked m.1 m.2) = after := by
  induction marked generalizing bindings with
  | nil => exact Except.ok.inj h
  | cons m ms ih =>
    rw [addAllMarked_cons] at h
    cases hm : bindings.addMarked m.1 m.2 with
    | error e => simp [hm, bind, Except.bind] at h
    | ok next =>
      rw [hm] at h
      rw [List.map_cons, run_cons, performOn_addMarked, hm]
      exact ih h

theorem Reordering.offeredTo {marked reordered : List (String × Field)}
    (h : Reordering marked reordered) (kind : BindingKind) :
    HostBindings.offeredTo marked kind = HostBindings.offeredTo reordered kind := by
  rw [HostBindings.offeredTo, HostBindings.offeredTo, h.order kind]

/-- Reordered fields are accepted together or refused together, and lead to the same bindings. -/
theorem addAllMarked_of_reordering {marked reordered : List (String × Field)}
    (h : Reordering marked reordered) :
    bindings.addAllMarked marked = .ok after ↔ bindings.addAllMarked reordered = .ok after := by
  simp only [addAllMarked_eq_ok_iff, h.offeredTo, h.perm.mem_iff]

end HostBindings

theorem binderIn_eq_ok_iff {β : Type} [ClassBuilder β] {context : BinderContext β} {host : Host}
    {marked : List (String × Field)} {spec : ClassSpec} :
    binderIn context host marked = .ok spec ↔
      ∃ bindings : HostBindings,
        HostBindings.addAllMarked { host, options := context.options } marked = .ok bindings ∧
          (bindings.assemble context).1 = .ok spec := by
  rw [binderIn]
  cases HostBindings.addAllMarked { host, options := context.options } marked with
  | error e => simp [bind, Except.bind]
  | ok bindings => simp [bind, Except.bind]

/-- The binder of a host is put together after a run. -/
theorem exists_run_of_binderOf {options : Options} {host : Host} {marked : List (String × Field)}
    {spec : ClassSpec} (h : binderOf options host marked = .ok spec) :
    ∃ steps, spec = (HostBindings.run { host, options } steps).fullBinder options := by
  obtain ⟨bindings, hadd, hbinder⟩ := binderIn_eq_ok_iff.mp h
  have hrun : HostBindings.run { host, options } (marked.map fun m => .addMarked m.1 m.2) =
      bindings :=
    HostBindings.run_of_addAllMarked hadd
  refine ⟨marked.map fun m => .addMarked m.1 m.2, ?_⟩
  rw [hrun]
  exact (HostBindings.binder_eq_ok_iff.mp hbinder).2

/-- **The order between kinds does not matter.** If the bindings of a host change places but keep
their order inside each kind, then there is a binder for both orders or for neither, in any context,
and it is the same: by name, modifiers, superclass, annotations and members, statement by
statement. -/
theorem binderIn_of_reordering {β : Type} [ClassBuilder β] (context : BinderContext β)
    (host : Host) {marked reordered : List (String × Field)}
    (h : HostBindings.Reordering marked reordered) (spec : ClassSpec) :
    binderIn context host marked = .ok spec ↔ binderIn context host reordered = .ok spec := by
  simp only [binderIn_eq_ok_iff, HostBindings.addAllMarked_of_reordering h]

/-- A service, two views and an extra, with the extra moved to the front and the service between the
views. -/
theorem binderIn_of_moved_service :
    let host : Host := .ofQualifiedName "a.Main" .activity
    let audio : Field := { name := "audio", type := "android.media.AudioManager", key := some "k" }
    let title : Field := { name := "title", type := "android.widget.TextView", id := some 7 }
    let icon : Field := { name := "icon", type := "android.view.View", id := some 3 }
    let items : Field := { name := "items", type := "java.util.List<java.lang.String>" }
    let marked := [("BindService", audio), ("BindView", title), ("BindView", icon),
      ("me.oriley.shiv.BindExtra", items)]
    let reordered := [("me.oriley.shiv.BindExtra", items), ("BindView", title),
      ("BindService", audio), ("BindView", icon)]
    let start : HostBindings := { host }
    let spec := (start.run [.add .service audio, .add .view title, .add .view icon,
      .add .extra items]).fullBinder {}
    HostBindings.Reordering marked reordered ∧
      binderIn (.describing {}) host marked = .ok spec ∧
        binderIn (.describing {}) host reordered = .ok spec ∧
          spec.members.map Member.name =
            ["bindViews", "unbindViews", "bindExtras", "bindServices"] := by
  intro host audio title icon items marked reordered start spec
  have h : HostBindings.Reordering marked reordered :=
    ⟨by decide, fun kind => by cases kind <;> decide⟩
  have hmarked : binderIn (.describing {}) host marked = .ok spec := by
    dsimp only [marked, spec, start, host, audio, title, icon, items]
    rfl
  exact ⟨h, hmarked, (binderIn_of_reordering _ host h spec).mp hmarked, by rfl⟩

end Bindery

import Bindery.Proofs.Binding.Assembly
import Bindery.Proofs.Binding.Run
import Bindery.Proofs.Category.Coverage

/-!
# From accepted fields to members

The rules that a field passes when it is offered are all that the members need later: no step of a
run weakens them. So the binder of any run covers the accepted fields, kind by kind.

## Main definitions

* `Store.Sound`, `HostBindings.Sound`: every field passed the check of its kind, and the names in a
  store are distinct
* `HostBindings.CoversAccepted`: the members of a class cover the accepted fields, kind by kind

## Main results

* `sound_run`: the stores are sound after every run
* `binder_covers_accepted`: the members of a binder cover the accepted fields
-/

namespace Bindery

/-- Every field of the store passed the check of the kind, and no two fields share a name. -/
structure Store.Sound (kind : BindingKind) (store : Store) : Prop where
  accepted : ∀ f ∈ store.fields, kind.check f = .ok ()
  distinct : (store.fields.map (·.name)).Nodup

namespace Store

variable {kind : BindingKind} {store : Store}

theorem checkShared_eq_ok_iff {f : Field} :
    store.checkShared f = .ok () ↔
      f.hasModifier .isPrivate = false ∧ f.hasModifier .isStatic = false ∧
        f.hasModifier .isFinal = false ∧ f.name ∉ store.fields.map (·.name) := by
  have hnew : f.name ∉ store.fields.map (·.name) ↔
      (store.fields.any fun g => g.name == f.name) = false := by
    simp
  rw [checkShared, hnew]
  cases f.hasModifier .isPrivate with
  | true => simp
  | false =>
    cases f.hasModifier .isStatic with
    | true => simp
    | false =>
      cases f.hasModifier .isFinal with
      | true => simp
      | false => cases (store.fields.any fun g => g.name == f.name) <;> simp

theorem Sound.empty (kind : BindingKind) : Sound kind {} := ⟨by simp, List.nodup_nil⟩

theorem Sound.add {after : Store} {f : Field} (hsound : store.Sound kind)
    (h : store.add kind f = .ok after) : after.Sound kind := by
  obtain ⟨hshared, hkind, rfl⟩ := add_eq_ok_iff.mp h
  refine ⟨?_, ?_⟩
  · intro g hg
    rcases List.mem_append.mp hg with hold | hnew
    · exact hsound.accepted g hold
    · rw [List.mem_singleton.mp hnew]
      exact hkind
  · obtain ⟨-, -, -, hnew⟩ := checkShared_eq_ok_iff.mp hshared
    rw [List.map_append, List.map_singleton, List.nodup_append]
    refine ⟨hsound.distinct, by simp, ?_⟩
    intro name hname other hother heq
    rw [heq, List.mem_singleton.mp hother] at hname
    exact hnew hname

end Store

namespace HostBindings

/-- The invariant of a run: each store is sound for its kind. -/
def Sound (bindings : HostBindings) : Prop :=
  ∀ kind, (bindings.stores.get kind).Sound kind

variable {bindings after : HostBindings}

theorem sound_start (host : Host) (options : Options) : Sound { host, options } := by
  intro kind
  cases kind <;> exact Store.Sound.empty _

theorem Sound.performOn {s : BindingStep} (hsound : bindings.Sound)
    (h : bindings.performOn s = (.ok (), after)) : after.Sound := by
  obtain ⟨kind, store, -, hstore, rfl⟩ := performOn_ok h
  intro other
  by_cases hkind : other = kind
  · subst hkind
    simpa using (hsound other).add hstore
  · simpa [Stores.get_set_of_ne _ _ hkind] using hsound other

theorem sound_run (host : Host) (options : Options) (steps : List BindingStep) :
    (run { host, options } steps).Sound :=
  run_invariant (sound_start host options) Sound.performOn steps

/-- A run keeps the host and its options. -/
theorem host_options_run (bindings : HostBindings) (steps : List BindingStep) :
    (bindings.run steps).host = bindings.host ∧
      (bindings.run steps).options = bindings.options := by
  refine run_invariant (motive := fun b => b.host = bindings.host ∧ b.options = bindings.options)
    ⟨rfl, rfl⟩ (fun hbefore h => ?_) steps
  obtain ⟨kind, store, -, -, rfl⟩ := performOn_ok h
  exact hbefore

theorem check_of_mem_acceptedFor {host : Host} {options : Options} {steps : List BindingStep}
    {kind : BindingKind} {f : Field} (h : f ∈ acceptedFor { host, options } steps kind) :
    kind.check f = .ok () := by
  rw [← fields_run_start] at h
  exact (sound_run host options steps kind).accepted f h

/-- No two fields that a run accepts for a kind share a name. -/
theorem nodup_acceptedFor (host : Host) (options : Options) (steps : List BindingStep)
    (kind : BindingKind) : ((acceptedFor { host, options } steps kind).map (·.name)).Nodup := by
  rw [← fields_run_start]
  exact (sound_run host options steps kind).distinct

/-- The members of a class are one part for each kind, in the order of the kinds: nothing for a kind
without accepted fields, and otherwise members that cover the fields accepted for the kind, each
under a name of its own. -/
def CoversAccepted (start : HostBindings) (steps : List BindingStep) (spec : ClassSpec) : Prop :=
  ∃ parts : BindingKind → List Member,
    spec.members = BindingKind.all.flatMap parts ∧
      ∀ kind, ((start.acceptedFor steps kind).map (·.name)).Nodup ∧
        if start.acceptedFor steps kind = [] then parts kind = []
        else
          Category.Emits start.host start.options kind (start.acceptedFor steps kind) (parts kind)

theorem coversAccepted_fullBinder (host : Host) (options : Options) (steps : List BindingStep)
    (context : Options) : CoversAccepted { host, options } steps
      ((run { host, options } steps).fullBinder context) := by
  refine ⟨(run { host, options } steps).membersOf, rfl, fun kind => ⟨?_, ?_⟩⟩
  · exact nodup_acceptedFor host options steps kind
  · obtain ⟨hhost, hoptions⟩ := host_options_run { host, options } steps
    rw [membersOf, fields_run_start, hhost, hoptions]
    split
    · rfl
    · exact Category.emits_members host options fun f hf => check_of_mem_acceptedFor hf

/-- **A binder covers the accepted fields.** If there is a binder after a run, its members cover the
fields that the run accepted, each exactly once, in the order of the steps and with its own data.
The answers that the statements keep for a field without an id, a key, an accessor or a service
name are never used: no such field is accepted. -/
theorem binder_covers_accepted (host : Host) (options : Options) (steps : List BindingStep)
    (context : Options) (spec : ClassSpec)
    (h : (run { host, options } steps).binder context = .ok spec) :
    CoversAccepted { host, options } steps spec ∧
      (∀ f ∈ acceptedFor { host, options } steps .view, f.id ≠ none) ∧
      (∀ f ∈ acceptedFor { host, options } steps .preference,
        f.explicitKey ≠ none ∧ Category.Preference.accessor? f.type ≠ none) ∧
      ∀ f ∈ acceptedFor { host, options } steps .service,
        Category.Service.nameExpression? f ≠ none := by
  obtain ⟨-, rfl⟩ := binder_eq_ok_iff.mp h
  refine ⟨coversAccepted_fullBinder host options steps context, ?_, ?_, ?_⟩
  · intro f hf
    obtain ⟨id, hid, -⟩ := Category.View.check_eq_ok_iff.mp (check_of_mem_acceptedFor hf)
    simp [hid]
  · intro f hf
    obtain ⟨key, accessor, hkey, haccessor⟩ :=
      Category.Preference.check_eq_ok_iff.mp (check_of_mem_acceptedFor hf)
    simp [hkey, haccessor]
  · intro f hf
    obtain ⟨-, service, hservice⟩ :=
      Category.Service.check_eq_ok_iff.mp (check_of_mem_acceptedFor hf)
    simp [hservice]

/-- A view with a refused twin, and a service, on an activity. -/
theorem activity_binder_covers_accepted :
    let start : HostBindings := { host := .ofQualifiedName "a.Main" .activity }
    let title : Field := { name := "title", type := "android.widget.TextView", id := some 7 }
    let audio : Field := { name := "audio", type := "android.media.AudioManager" }
    let steps : List BindingStep :=
      [.addMarked "BindView" title, .add .view title, .addMarked "me.oriley.shiv.BindService" audio]
    (start.run steps).binder {} = .ok ((start.run steps).fullBinder {}) ∧
      start.acceptedFor steps .view = [title] ∧ start.acceptedFor steps .service = [audio] ∧
        start.CoversAccepted steps ((start.run steps).fullBinder {}) := by
  intro start title audio steps
  have h : (start.run steps).binder {} = .ok ((start.run steps).fullBinder {}) := by rfl
  exact ⟨h, by decide +kernel, by decide +kernel,
    (binder_covers_accepted start.host start.options steps {} _ h).1⟩

end HostBindings

end Bindery

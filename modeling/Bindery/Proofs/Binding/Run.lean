import Bindery.Proofs.Binding.Step
import Bindery.Proofs.Text.Dotted

/-!
# Runs of binding steps

A step in place answers what the offer of its field answers. If the offer is refused, nothing has
changed: all rules are looked at before the first change. Otherwise the field goes to the end of one
store, and the other stores stay. So a run leaves in each store the fields of the steps that were
accepted for its kind, and the refused steps can be left out.

## Main definitions

* `settle`: an answer and the state it leaves, where an error keeps the state before

## Main results

* `ofMarker?_eq_some_iff`: the markers that select a kind
* `performOn_add`, `performOn_addMarked`: a step in place against the offer of its field
* `performOn_ok`: the effect of an accepted step
* `run_invariant`: what accepted steps preserve holds after every run
* `run_collects_accepted`: the stores after a run, step by step and as a whole
-/

namespace Bindery

/-- An answer and the state that it leaves: the new state, or after an error the one before. -/
def settle {ε σ : Type} (before : σ) : Except ε σ → Except ε Unit × σ
  | .ok after => (.ok (), after)
  | .error e => (.error e, before)

/-! ## Programs that work in place -/

namespace InPlace

variable {ε σ α β : Type}

theorem run_bind (x : ExceptT ε (StateM σ) α) (next : α → ExceptT ε (StateM σ) β) (before : σ) :
    (x >>= next).run.run before =
      match x.run.run before with
      | (.ok a, after) => (next a).run.run after
      | (.error e, after) => (.error e, after) := by
  change (match (x.run.run before).1 with
    | .ok a => (next a).run
    | .error e => pure (.error e)).run (x.run.run before).2 = _
  rcases x.run.run before with ⟨_ | _, after⟩ <;> rfl

theorem run_get (before : σ) :
    (get : ExceptT ε (StateM σ) σ).run.run before = (.ok before, before) := rfl

theorem run_set (after before : σ) :
    (set after : ExceptT ε (StateM σ) PUnit).run.run before = (.ok ⟨⟩, after) := rfl

theorem run_modify (change : σ → σ) (before : σ) :
    (modify change : ExceptT ε (StateM σ) PUnit).run.run before = (.ok ⟨⟩, change before) := rfl

theorem run_ofExcept (outcome : Except ε α) (before : σ) :
    (ofExcept outcome : ExceptT ε (StateM σ) α).run.run before = (outcome, before) := by
  cases outcome <;> rfl

end InPlace

/-! ## Markers -/

namespace BindingKind

theorem find_marker (kind : BindingKind) :
    (all.find? fun k => k.marker == kind.marker) = some kind := by
  cases kind <;> decide

/-- No marker starts with the qualifier, so a bare marker is taken as it is. -/
theorem dropPrefix?_marker (kind : BindingKind) :
    Text.dropPrefix? markerQualifier kind.marker = none := by
  cases kind <;> decide

/-- A kind is selected by its marker, written with the qualifier or without. -/
theorem ofMarker?_eq_some_iff {written : String} {kind : BindingKind} :
    ofMarker? written = some kind ↔
      written = kind.marker ∨ written = markerQualifier ++ kind.marker := by
  constructor
  · intro h
    have hmarker := List.find?_some h
    rw [beq_iff_eq] at hmarker
    cases hdrop : Text.dropPrefix? markerQualifier written with
    | none => exact Or.inl (by simpa [hdrop] using hmarker.symm)
    | some bare =>
      refine Or.inr ?_
      rw [Text.dropPrefix?_eq_some_iff.mp hdrop]
      simpa [hdrop] using hmarker.symm
  · rintro (rfl | rfl)
    · rw [ofMarker?, dropPrefix?_marker]
      exact find_marker kind
    · rw [ofMarker?, Text.dropPrefix?_append]
      exact find_marker kind

end BindingKind

/-! ## The stores of the kinds -/

namespace Stores

@[simp] theorem get_set_self (stores : Stores) (kind : BindingKind) (store : Store) :
    (stores.set kind store).get kind = store := by
  cases kind <;> rfl

theorem get_set_of_ne (stores : Stores) {kind other : BindingKind} (store : Store)
    (h : other ≠ kind) : (stores.set kind store).get other = stores.get other := by
  cases kind <;> cases other <;> first | rfl | exact absurd rfl h

@[simp] theorem set_get_self (stores : Stores) (kind : BindingKind) :
    stores.set kind (stores.get kind) = stores := by
  cases kind <;> rfl

end Stores

theorem Store.add_eq_ok_iff {store after : Store} {kind : BindingKind} {f : Field} :
    store.add kind f = .ok after ↔
      store.checkShared f = .ok () ∧ kind.check f = .ok () ∧
        after = {
          fields := store.fields ++ [f]
          warnings := store.warnings.insertAll (kind.warnings f) } := by
  rw [add, check]
  cases store.checkShared f with
  | error reason => simp [bind, Except.bind]
  | ok _ =>
    cases kind.check f with
    | error reason => simp [bind, Except.bind]
    | ok _ => simp [bind, Except.bind, pure, Except.pure, eq_comm]

/-! ## Steps in place -/

/-- An offer in place answers what the offer answers, and a refusal leaves the store as it was. -/
theorem Store.run_offer (kind : BindingKind) (f : Field) (store : Store) :
    (Store.offer kind f).run.run store = settle store (store.add kind f) := by
  simp only [Store.offer, Store.add, Store.check, InPlace.run_bind, InPlace.run_get,
    InPlace.run_ofExcept, InPlace.run_modify]
  cases store.checkShared f with
  | error reason => rfl
  | ok _ => cases kind.check f <;> rfl

namespace HostBindings

variable {bindings after : HostBindings}

theorem run_offer (kind : BindingKind) (f : Field) (bindings : HostBindings) :
    (HostBindings.offer kind f).run.run bindings = settle bindings (bindings.add kind f) := by
  simp only [HostBindings.offer, HostBindings.add, InPlace.run_bind, InPlace.run_get,
    InPlace.run_set, InPlace.run_ofExcept, Store.run_offer]
  cases (bindings.stores.get kind).add kind f with
  | error reason =>
    simp only [settle, Stores.set_get_self]
    rfl
  | ok store => rfl

theorem performOn_add (bindings : HostBindings) (kind : BindingKind) (f : Field) :
    bindings.performOn (.add kind f) = settle bindings (bindings.add kind f) :=
  run_offer kind f bindings

theorem performOn_addMarked (bindings : HostBindings) (marker : String) (f : Field) :
    bindings.performOn (.addMarked marker f) = settle bindings (bindings.addMarked marker f) := by
  rw [performOn, BindingStep.perform, addMarked]
  cases BindingKind.ofMarker? marker with
  | none => rfl
  | some kind => exact run_offer kind f bindings

/-- The offer that a step makes, with the bindings as a value. -/
theorem performOn_of_kind? {s : BindingStep} {kind : BindingKind} (h : s.kind? = some kind)
    (bindings : HostBindings) :
    bindings.performOn s = settle bindings (bindings.add kind s.field) := by
  cases s with
  | add kind' f =>
    obtain rfl : kind' = kind := Option.some.inj h
    exact performOn_add bindings kind' f
  | addMarked marker f =>
    have h' : BindingKind.ofMarker? marker = some kind := h
    rw [performOn_addMarked, addMarked, h']
    rfl

theorem performOn_of_kind?_eq_none {s : BindingStep} (h : s.kind? = none)
    (bindings : HostBindings) :
    ∃ marker f, s = .addMarked marker f ∧
      bindings.performOn s = (.error (.unknownMarker marker), bindings) := by
  cases s with
  | add kind f => exact absurd h (by simp [BindingStep.kind?])
  | addMarked marker f =>
    have h' : BindingKind.ofMarker? marker = none := h
    refine ⟨marker, f, rfl, ?_⟩
    rw [performOn_addMarked, addMarked, h']
    rfl

/-- A refused step changes nothing. -/
theorem performOn_error {s : BindingStep} {e : BindingError}
    (h : bindings.performOn s = (.error e, after)) : after = bindings := by
  cases hkind : s.kind? with
  | none =>
    obtain ⟨marker, f, -, heq⟩ := performOn_of_kind?_eq_none hkind bindings
    rw [heq] at h
    exact (Prod.mk.inj h).2.symm
  | some kind =>
    rw [performOn_of_kind? hkind] at h
    cases hadd : bindings.add kind s.field with
    | error e' =>
      rw [hadd] at h
      exact (Prod.mk.inj h).2.symm
    | ok next => simp [hadd, settle] at h

/-- All that an accepted step does: a field that passed all rules goes to the end of one store,
with its warnings. -/
theorem performOn_ok {s : BindingStep} (h : bindings.performOn s = (.ok (), after)) :
    ∃ kind store, s.kind? = some kind ∧
      (bindings.stores.get kind).add kind s.field = .ok store ∧
      after = { bindings with stores := bindings.stores.set kind store } := by
  cases hkind : s.kind? with
  | none =>
    obtain ⟨marker, f, -, heq⟩ := performOn_of_kind?_eq_none hkind bindings
    simp [heq] at h
  | some kind =>
    rw [performOn_of_kind? hkind, add] at h
    cases hstore : (bindings.stores.get kind).add kind s.field with
    | error reason => simp [hstore, settle] at h
    | ok store =>
      rw [hstore] at h
      exact ⟨kind, store, rfl, hstore, (Prod.mk.inj h).2.symm⟩

/-! ## Runs -/

@[simp] theorem run_nil (bindings : HostBindings) : bindings.run [] = bindings := rfl

theorem run_cons (bindings : HostBindings) (s : BindingStep) (ss : List BindingStep) :
    bindings.run (s :: ss) = (bindings.performOn s).2.run ss := rfl

/-- What every accepted step preserves holds after every run. -/
theorem run_invariant {motive : HostBindings → Prop} (h : motive bindings)
    (hstep : ∀ {before after : HostBindings} {s : BindingStep}, motive before →
      before.performOn s = (.ok (), after) → motive after)
    (steps : List BindingStep) : motive (bindings.run steps) := by
  -- the bindings change with every accepted step, so the induction is for any start
  induction steps generalizing bindings with
  | nil => exact h
  | cons s ss ih =>
    rw [run_cons]
    rcases hs : bindings.performOn s with ⟨_ | _, after⟩
    · rw [performOn_error hs]
      exact ih h
    · exact ih (hstep h hs)

theorem fields_performOn_ok {s : BindingStep} {kind : BindingKind}
    (h : bindings.performOn s = (.ok (), after)) (hkind : s.kind? = some kind) :
    (after.stores.get kind).fields = (bindings.stores.get kind).fields ++ [s.field] ∧
      ∀ other, other ≠ kind → after.stores.get other = bindings.stores.get other := by
  obtain ⟨kind', store, hkind', hstore, rfl⟩ := performOn_ok h
  obtain rfl : kind' = kind := Option.some.inj (hkind'.symm.trans hkind)
  obtain ⟨-, -, rfl⟩ := Store.add_eq_ok_iff.mp hstore
  exact ⟨by simp, fun other hne => Stores.get_set_of_ne _ _ hne⟩

/-- A run adds to each store the fields of the steps accepted for its kind. -/
theorem fields_run (bindings : HostBindings) (steps : List BindingStep) (kind : BindingKind) :
    ((bindings.run steps).stores.get kind).fields =
      (bindings.stores.get kind).fields ++ bindings.acceptedFor steps kind := by
  induction steps generalizing bindings with
  | nil => simp [acceptedFor, accepted]
  | cons s ss ih =>
    rw [run_cons, acceptedFor, accepted]
    rcases hs : bindings.performOn s with ⟨e | _, after⟩
    · rw [ih, performOn_error hs]
      rfl
    · obtain ⟨kind', store, hkind', -, -⟩ := performOn_ok hs
      obtain ⟨hself, hother⟩ := fields_performOn_ok hs hkind'
      rw [ih]
      by_cases hk : kind = kind'
      · subst hk
        simp [acceptedFor, hkind', hself]
      · have hk' : ¬ kind' = kind := fun h => hk h.symm
        simp [acceptedFor, hkind', hother kind hk, hk']

theorem fields_run_start (host : Host) (options : Options) (steps : List BindingStep)
    (kind : BindingKind) : ((run { host, options } steps).stores.get kind).fields =
      acceptedFor { host, options } steps kind := by
  rw [fields_run]
  cases kind <;> rfl

/-- The refused steps of a run can be left out. -/
theorem run_accepted (bindings : HostBindings) (steps : List BindingStep) :
    bindings.run (bindings.accepted steps) = bindings.run steps := by
  induction steps generalizing bindings with
  | nil => rfl
  | cons s ss ih =>
    rw [run_cons, accepted]
    rcases hs : bindings.performOn s with ⟨e | _, after⟩
    · obtain rfl := performOn_error hs
      exact ih _
    · simp only [run_cons, hs]
      exact ih after

/-- **The bindings collect exactly the accepted fields.** After any run on the bindings of a host,
the store of each kind holds the fields of the steps accepted for that kind, in the order of the
steps, and leaving out the refused steps leads to the same bindings. A step in place answers what
the offer of its field answers; refused, it changes nothing, and accepted, it puts its field at the
end of one store and keeps the other five. A marker selects a kind exactly if it is the marker of
that kind, bare or with the qualifier once in front, and any other marker is refused and named. -/
theorem run_collects_accepted (host : Host) (options : Options) (steps : List BindingStep) :
    (∀ kind, ((run { host, options } steps).stores.get kind).fields =
        acceptedFor { host, options } steps kind) ∧
      run { host, options } (accepted { host, options } steps) = run { host, options } steps ∧
      (∀ (before : HostBindings) (kind : BindingKind) (f : Field),
        before.performOn (.add kind f) = settle before (before.add kind f)) ∧
      (∀ (before : HostBindings) (marker : String) (f : Field),
        before.performOn (.addMarked marker f) = settle before (before.addMarked marker f)) ∧
      (∀ (before : HostBindings) (s : BindingStep),
        match before.performOn s with
        | (.error _, after) => after = before
        | (.ok (), after) =>
          ∃ kind, s.kind? = some kind ∧
            (after.stores.get kind).fields = (before.stores.get kind).fields ++ [s.field] ∧
            ∀ other, other ≠ kind → after.stores.get other = before.stores.get other) ∧
      (∀ (marker : String) (f : Field) (kind : BindingKind),
        (BindingStep.addMarked marker f).kind? = some kind ↔
          marker = kind.marker ∨ marker = "me.oriley.shiv." ++ kind.marker) ∧
      ∀ (before : HostBindings) (marker : String) (f : Field),
        before.addMarked marker f =
          match (BindingStep.addMarked marker f).kind? with
          | some kind => before.add kind f
          | none => .error (.unknownMarker marker) := by
  refine ⟨fields_run_start host options steps, run_accepted _ _, performOn_add,
    performOn_addMarked, ?_, ?_, ?_⟩
  · intro before s
    rcases hs : before.performOn s with ⟨e | _, after⟩
    · exact performOn_error hs
    · obtain ⟨kind, _, hkind, -, -⟩ := performOn_ok hs
      exact ⟨kind, hkind, fields_performOn_ok hs hkind⟩
  · intro marker f kind
    exact BindingKind.ofMarker?_eq_some_iff
  · intro before marker f
    rfl

end HostBindings

end Bindery

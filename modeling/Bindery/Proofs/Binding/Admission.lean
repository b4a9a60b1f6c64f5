import Bindery.Proofs.Binding.Emission

/-!
# Which steps are accepted

A step is accepted if its field keeps the rules of its kind and if the name of the field is free,
that is, not yet taken by a field of the same kind. The rules look at the field alone. So whether
all steps of a run are accepted does not depend on their order, and the accepted steps of a run are
accepted again in any other order.

## Main definitions

* `BindingStep.Admissible`: the field of a step keeps the rules that look at it alone
* `BindingStep.slot`: the kind and the name that a step takes
* `HostBindings.Taken`: a kind has a field of a name already

## Main results

* `performOn_ok_iff`: a step is accepted exactly if it is admissible and its slot is free
* `accepted_eq_self_iff`: all steps of a run are accepted exactly if they are admissible and take
  distinct slots that were free
* `accepted_of_perm`: the accepted steps of a run are accepted in any order
-/

namespace Bindery

namespace BindingStep

/-- The field of a step keeps the rules that look at the field alone, and the step has a kind. -/
def Admissible (s : BindingStep) : Prop :=
  ∃ kind, s.kind? = some kind ∧ s.field.hasModifier .isPrivate = false ∧
    s.field.hasModifier .isStatic = false ∧ s.field.hasModifier .isFinal = false ∧
      kind.check s.field = .ok ()

/-- The kind and the name that a step takes. -/
def slot (s : BindingStep) : Option BindingKind × String :=
  (s.kind?, s.field.name)

end BindingStep

namespace HostBindings

/-- A field of this kind and name is there already. -/
def Taken (bindings : HostBindings) (slot : Option BindingKind × String) : Prop :=
  ∃ kind, slot.1 = some kind ∧ slot.2 ∈ (bindings.stores.get kind).fields.map (·.name)

variable {bindings after : HostBindings} {s : BindingStep}

/-- A step is accepted exactly if it is admissible and its slot is free. -/
theorem performOn_ok_iff :
    (∃ after, bindings.performOn s = (.ok (), after)) ↔ s.Admissible ∧ ¬ bindings.Taken s.slot := by
  constructor
  · rintro ⟨after, h⟩
    obtain ⟨kind, store, hkind, hstore, -⟩ := performOn_ok h
    obtain ⟨hshared, hcheck, -⟩ := Store.add_eq_ok_iff.mp hstore
    obtain ⟨hprivate, hstatic, hfinal, hname⟩ := Store.checkShared_eq_ok_iff.mp hshared
    refine ⟨⟨kind, hkind, hprivate, hstatic, hfinal, hcheck⟩, ?_⟩
    rintro ⟨kind', hkind', htaken⟩
    obtain rfl : kind = kind' := Option.some.inj (hkind.symm.trans hkind')
    exact hname htaken
  · rintro ⟨⟨kind, hkind, hprivate, hstatic, hfinal, hcheck⟩, hfree⟩
    have hname : s.field.name ∉ (bindings.stores.get kind).fields.map (·.name) :=
      fun htaken => hfree ⟨kind, hkind, htaken⟩
    have hshared := Store.checkShared_eq_ok_iff.mpr ⟨hprivate, hstatic, hfinal, hname⟩
    have hstore := Store.add_eq_ok_iff.mpr ⟨hshared, hcheck, rfl⟩
    rw [performOn_of_kind? hkind, add, hstore]
    exact ⟨_, rfl⟩

/-- An accepted step takes its slot and no other. -/
theorem taken_performOn (h : bindings.performOn s = (.ok (), after))
    (slot : Option BindingKind × String) :
    after.Taken slot ↔ bindings.Taken slot ∨ slot = s.slot := by
  obtain ⟨kind, store, hkind, -, -⟩ := performOn_ok h
  obtain ⟨hself, hother⟩ := fields_performOn_ok h hkind
  have hget : ∀ other, slot.2 ∈ (after.stores.get other).fields.map (·.name) ↔
      slot.2 ∈ (bindings.stores.get other).fields.map (·.name) ∨
        other = kind ∧ slot.2 = s.field.name := by
    intro other
    by_cases hk : other = kind
    · subst hk
      rw [hself, List.map_append, List.mem_append, List.map_singleton, List.mem_singleton]
      simp
    · simp [hother other hk, hk]
  obtain ⟨kind?, name⟩ := slot
  simp only [Taken, hget, BindingStep.slot, hkind, Prod.mk.injEq]
  constructor
  · rintro ⟨other, rfl, htaken | ⟨rfl, rfl⟩⟩
    · exact Or.inl ⟨other, rfl, htaken⟩
    · exact Or.inr ⟨rfl, rfl⟩
  · rintro (⟨other, rfl, htaken⟩ | ⟨rfl, rfl⟩)
    · exact ⟨other, rfl, Or.inl htaken⟩
    · exact ⟨kind, rfl, Or.inr ⟨rfl, rfl⟩⟩

/-! ## Runs in which all steps are accepted -/

theorem accepted_cons_of_ok (h : bindings.performOn s = (.ok (), after)) (ss : List BindingStep) :
    bindings.accepted (s :: ss) = s :: after.accepted ss := by
  rw [accepted, h]

theorem accepted_cons_of_not_ok (h : ¬ ∃ after, bindings.performOn s = (.ok (), after))
    (ss : List BindingStep) : bindings.accepted (s :: ss) = bindings.accepted ss := by
  rw [accepted]
  rcases hs : bindings.performOn s with ⟨e | _, after⟩
  · rw [performOn_error hs]
  · exact absurd ⟨after, hs⟩ h

theorem accepted_sublist (bindings : HostBindings) (steps : List BindingStep) :
    (bindings.accepted steps).Sublist steps := by
  induction steps generalizing bindings with
  | nil => exact List.Sublist.refl []
  | cons s ss ih =>
    by_cases hs : ∃ after, bindings.performOn s = (.ok (), after)
    · obtain ⟨after, hs⟩ := hs
      rw [accepted_cons_of_ok hs]
      exact (ih after).cons_cons s
    · rw [accepted_cons_of_not_ok hs]
      exact (ih bindings).cons s

/-- The accepted steps of a run are all accepted when they alone are made. -/
theorem accepted_accepted (bindings : HostBindings) (steps : List BindingStep) :
    bindings.accepted (bindings.accepted steps) = bindings.accepted steps := by
  induction steps generalizing bindings with
  | nil => rfl
  | cons s ss ih =>
    by_cases hs : ∃ after, bindings.performOn s = (.ok (), after)
    · obtain ⟨after, hs⟩ := hs
      rw [accepted_cons_of_ok hs, accepted_cons_of_ok hs, ih after]
    · rw [accepted_cons_of_not_ok hs, ih bindings]

/-- All steps of a run are accepted exactly if they are admissible and take distinct slots that were
free before the run. -/
theorem accepted_eq_self_iff {steps : List BindingStep} :
    bindings.accepted steps = steps ↔
      (∀ s ∈ steps, s.Admissible) ∧ (steps.map BindingStep.slot).Nodup ∧
        ∀ s ∈ steps, ¬ bindings.Taken s.slot := by
  induction steps generalizing bindings with
  | nil => simp [accepted]
  | cons s ss ih =>
    simp only [List.forall_mem_cons, List.map_cons, List.nodup_cons]
    by_cases hs : ∃ after, bindings.performOn s = (.ok (), after)
    · have hadmissible := performOn_ok_iff.mp hs
      obtain ⟨after, hs⟩ := hs
      rw [accepted_cons_of_ok hs, List.cons.injEq, ih]
      simp only [taken_performOn hs, not_or, List.mem_map, not_exists, not_and]
      constructor
      · rintro ⟨-, hss, hnodup, hfree⟩
        exact ⟨⟨hadmissible.1, hss⟩, ⟨fun x hx heq => (hfree x hx).2 heq, hnodup⟩,
          hadmissible.2, fun x hx => (hfree x hx).1⟩
      · rintro ⟨⟨-, hss⟩, ⟨hnew, hnodup⟩, -, hfree⟩
        exact ⟨trivial, hss, hnodup, fun x hx => ⟨hfree x hx, fun heq => hnew x hx heq⟩⟩
    · rw [accepted_cons_of_not_ok hs]
      constructor
      · intro heq
        have hlength := (accepted_sublist bindings ss).length_le
        rw [heq, List.length_cons] at hlength
        exact absurd hlength (Nat.not_succ_le_self ss.length)
      · rintro ⟨⟨hadmissible, -⟩, -, hfree, -⟩
        exact absurd (performOn_ok_iff.mpr ⟨hadmissible, hfree⟩) hs

/-- The accepted steps of a run are all accepted in any other order. -/
theorem accepted_of_perm {steps reordered : List BindingStep}
    (h : reordered.Perm (bindings.accepted steps)) : bindings.accepted reordered = reordered := by
  obtain ⟨hadmissible, hnodup, hfree⟩ :=
    accepted_eq_self_iff.mp (accepted_accepted bindings steps)
  refine accepted_eq_self_iff.mpr ⟨?_, ?_, ?_⟩
  · exact fun s hs => hadmissible s (h.mem_iff.mp hs)
  · exact (h.map BindingStep.slot).nodup_iff.mpr hnodup
  · exact fun s hs => hfree s (h.mem_iff.mp hs)

/-- The fields of the accepted steps, made in another order, are the same for each kind. -/
theorem mem_acceptedFor_of_perm {steps reordered : List BindingStep}
    (h : reordered.Perm (bindings.accepted steps)) (kind : BindingKind) (f : Field) :
    f ∈ bindings.acceptedFor reordered kind ↔ f ∈ bindings.acceptedFor steps kind := by
  rw [acceptedFor, acceptedFor, accepted_of_perm h]
  exact ((h.filter _).map _).mem_iff

end HostBindings

end Bindery

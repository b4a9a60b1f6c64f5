import Bindery.Binding.HostBindings

/-!
# Assembling a binder

A kind fits a host if it has no fields or if the host's role supports it. A binder can be put
together exactly if all kinds fit, and it then has the members of the kinds one after the other.

## Main definitions

* `HostBindings.Fits`: a kind does not stand in the way of a binder
* `HostBindings.membersOf`: the members for the fields of a kind

## Main results

* `emitAll_of_fits`, `emitAll_of_not_fits`: any builder receives the members of the kinds in order,
  up to one that does not fit
* `binder_eq_ok_iff`: when there is a binder, and what it is
-/

namespace Bindery

theorem BindingKind.mem_all (kind : BindingKind) : kind ∈ all := by
  cases kind <;> decide

namespace ClassBuilder

variable {β : Type} [ClassBuilder β]

theorem addMembers_append (b : β) (ms more : List Member) :
    addMembers b (ms ++ more) = addMembers (addMembers b ms) more :=
  List.foldl_append

end ClassBuilder

/-- Members that are added to a class description go to the end of its members. -/
theorem ClassSpec.addMembers_eq (spec : ClassSpec) (ms : List Member) :
    ClassBuilder.addMembers spec ms = { spec with members := spec.members ++ ms } := by
  induction ms generalizing spec with
  | nil => simp [ClassBuilder.addMembers]
  | cons m ms ih =>
    rw [ClassBuilder.addMembers, List.foldl_cons]
    have h := ih (ClassBuilder.addMember spec m)
    rw [ClassBuilder.addMembers] at h
    rw [h]
    simp [ClassBuilder.addMember]

namespace HostBindings

/-- The kind has no fields, or the role of the host supports it. -/
def Fits (bindings : HostBindings) (kind : BindingKind) : Prop :=
  (bindings.stores.get kind).fields ≠ [] → kind.supports bindings.host.kind = true

/-- The members for the fields of a kind; a kind without fields has none. -/
def membersOf (bindings : HostBindings) (kind : BindingKind) : List Member :=
  if (bindings.stores.get kind).fields = [] then []
  else kind.members bindings.host bindings.options (bindings.stores.get kind).fields

variable {bindings : HostBindings}

theorem members_of_fits {kind : BindingKind} (h : bindings.Fits kind) :
    (bindings.stores.get kind).members kind bindings.host bindings.options =
      .ok (bindings.membersOf kind) := by
  rw [Store.members, membersOf]
  by_cases hfields : (bindings.stores.get kind).fields = []
  · simp [hfields]
  · simp [hfields, h hfields]

theorem members_of_not_fits {kind : BindingKind} (h : ¬ bindings.Fits kind) :
    (bindings.stores.get kind).members kind bindings.host bindings.options =
      .error (.unsupportedHost kind bindings.host.qualifiedName bindings.host.kind) := by
  rw [Fits, Classical.not_imp, Bool.not_eq_true] at h
  rw [Store.members]
  simp [h.1, h.2]

section Emission

variable {β : Type} [ClassBuilder β] {kind : BindingKind} {kinds : List BindingKind}

theorem emitAll_cons_of_fits (h : bindings.Fits kind) (b : β) :
    bindings.emitAll (kind :: kinds) b =
      bindings.emitAll kinds (ClassBuilder.addMembers b (bindings.membersOf kind)) := by
  rw [emitAll, Store.emit, members_of_fits h]

theorem emitAll_cons_of_not_fits (h : ¬ bindings.Fits kind) (b : β) :
    bindings.emitAll (kind :: kinds) b =
      (.error (.unsupportedHost kind bindings.host.qualifiedName bindings.host.kind), b) := by
  rw [emitAll, Store.emit, members_of_not_fits h]

/-- A builder receives the members of one kind after the other, as long as the kinds fit. -/
theorem emitAll_append {before : List BindingKind} (h : ∀ k ∈ before, bindings.Fits k) (b : β) :
    bindings.emitAll (before ++ kinds) b =
      bindings.emitAll kinds (ClassBuilder.addMembers b (before.flatMap bindings.membersOf)) := by
  induction before generalizing b with
  | nil => rfl
  | cons k ks ih =>
    rw [List.forall_mem_cons] at h
    rw [List.cons_append, emitAll_cons_of_fits h.1, ih h.2, List.flatMap_cons,
      ClassBuilder.addMembers_append]

/-- If all kinds fit, a builder receives the members of all. -/
theorem emitAll_of_fits (h : ∀ kind ∈ kinds, bindings.Fits kind) (b : β) :
    bindings.emitAll kinds b =
      (.ok (), ClassBuilder.addMembers b (kinds.flatMap bindings.membersOf)) := by
  have happend : bindings.emitAll (kinds ++ []) b = _ := emitAll_append h b
  rwa [List.append_nil] at happend

/-- A kind that does not fit ends the work; the kinds in front of it have added their members. -/
theorem emitAll_of_not_fits {before : List BindingKind} (hbefore : ∀ k ∈ before, bindings.Fits k)
    (h : ¬ bindings.Fits kind) (after : List BindingKind) (b : β) :
    bindings.emitAll (before ++ kind :: after) b =
      (.error (.unsupportedHost kind bindings.host.qualifiedName bindings.host.kind),
        ClassBuilder.addMembers b (before.flatMap bindings.membersOf)) := by
  rw [emitAll_append hbefore, emitAll_cons_of_not_fits h]

/-- If the work comes to its end, all kinds fit. -/
theorem fits_of_emitAll_eq_ok {b c : β} (h : bindings.emitAll kinds b = (.ok (), c)) :
    ∀ kind ∈ kinds, bindings.Fits kind := by
  induction kinds generalizing b with
  | nil => exact List.forall_mem_nil _
  | cons kind kinds ih =>
    by_cases hkind : bindings.Fits kind
    · rw [emitAll_cons_of_fits hkind] at h
      exact List.forall_mem_cons.mpr ⟨hkind, ih h⟩
    · rw [emitAll_cons_of_not_fits hkind] at h
      cases h

end Emission

/-- The binder of a host for which all kinds fit. -/
def fullBinder (bindings : HostBindings) (options : Options) : ClassSpec where
  name := binderName bindings.host
  modifiers := [.isPublic, .isFinal]
  superclass := some options.binderClass
  annotations := bindings.stores.warnings.suppression?.toList
  members := BindingKind.all.flatMap bindings.membersOf

theorem finish_eq (spec : ClassSpec) :
    (bindings.finish spec).1 =
      { spec with
        annotations := spec.annotations ++ bindings.stores.warnings.suppression?.toList } := by
  simp only [finish]
  cases bindings.stores.warnings.suppression? with
  | none => simp [ClassBuilder.build]
  | some a => simp [ClassBuilder.build, ClassBuilder.annotate]

theorem binder_of_fits {options : Options} (h : ∀ kind, bindings.Fits kind) :
    bindings.binder options = .ok (bindings.fullBinder options) := by
  simp only [binder, assemble, emitAll_of_fits fun kind _ => h kind, ClassSpec.addMembers_eq,
    finish_eq]
  rfl

/-- There is a binder exactly if all kinds fit; it has the members of the kinds in order. -/
theorem binder_eq_ok_iff {options : Options} {spec : ClassSpec} :
    bindings.binder options = .ok spec ↔
      (∀ kind, bindings.Fits kind) ∧ spec = bindings.fullBinder options := by
  constructor
  · intro hok
    have hfits : ∀ kind, bindings.Fits kind := by
      intro kind
      simp only [binder, assemble] at hok
      split at hok
      · next hemit => exact fits_of_emitAll_eq_ok hemit kind (BindingKind.mem_all kind)
      · cases hok
    rw [binder_of_fits hfits] at hok
    exact ⟨hfits, (Except.ok.inj hok).symm⟩
  · rintro ⟨hfits, rfl⟩
    exact binder_of_fits hfits

/-! ## Hosts from start to end -/

theorem host_of_add {kind : BindingKind} {f : Field} {after : HostBindings}
    (h : bindings.add kind f = .ok after) : after.host = bindings.host := by
  rw [add] at h
  split at h
  · rw [← Except.ok.inj h]
  · simp at h

theorem host_of_addMarked {marker : String} {f : Field} {after : HostBindings}
    (h : bindings.addMarked marker f = .ok after) : after.host = bindings.host := by
  rw [addMarked] at h
  split at h
  · exact host_of_add h
  · simp at h

theorem host_of_addAllMarked {marked : List (String × Field)} {after : HostBindings}
    (h : bindings.addAllMarked marked = .ok after) : after.host = bindings.host := by
  rw [addAllMarked] at h
  induction marked generalizing bindings with
  | nil => rw [← Except.ok.inj h]
  | cons m ms ih =>
    rw [List.foldlM_cons] at h
    cases hm : bindings.addMarked m.1 m.2 with
    | error e => simp [hm, bind, Except.bind] at h
    | ok next =>
      rw [hm] at h
      rw [ih h, host_of_addMarked hm]

theorem binderOf_eq (options : Options) (host : Host) (marked : List (String × Field)) :
    binderOf options host marked =
      (addAllMarked { host, options } marked >>= fun bindings => bindings.binder options) :=
  rfl

/-- A binder is named after its host. -/
theorem name_of_binderOf {options : Options} {host : Host} {marked : List (String × Field)}
    {spec : ClassSpec} (h : binderOf options host marked = .ok spec) :
    spec.name = binderName host := by
  rw [binderOf_eq] at h
  cases hadd : addAllMarked { host, options } marked with
  | error e => simp [hadd, bind, Except.bind] at h
  | ok after =>
    rw [hadd] at h
    obtain ⟨-, rfl⟩ := binder_eq_ok_iff.mp h
    rw [fullBinder, host_of_addAllMarked hadd]

end HostBindings

end Bindery

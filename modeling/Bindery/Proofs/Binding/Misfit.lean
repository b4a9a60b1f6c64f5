import Mathlib.Data.List.Basic
import Mathlib.Data.Prod.Basic
import Bindery.Proofs.Binding.Assembly

/-!
# The first kind that does not fit

The assembly of a binder asks the stores in the order of the kinds. It ends at the first store that
has fields and whose kind is not for hosts of this role. Until then the builder has received the
head of the class and the members of the stores in front, each as the store adds them by itself, and
nothing else.

## Main definitions

* `BindingKind.hostKinds`: the roles that can carry bindings of a kind
* `HostBindings.Misfit`, `HostBindings.FirstMisfit`: a kind stands in the way of a binder, and is
  the first that does
* `HostBindings.emitted`: the members that a store adds by itself
* `HostBindings.headCalls`, `memberCalls`, `closingCalls`: the calls of an assembly

## Main results

* `Recording.replay_eq`: a recording keeps exactly the calls it receives
* `assemble_of_no_misfit`, `assemble_of_firstMisfit`: the two ways in which an assembly ends
* `assemble_up_to_first_misfit`: the outcome of an assembly and the calls that led to it
-/

namespace Bindery

/-- The roles whose hosts can carry bindings of the kind. -/
def BindingKind.hostKinds : BindingKind → List HostKind
  | view => [.activity, .fragment, .view]
  | preference => [.activity, .fragment, .view, .service, .other]
  | extra => [.activity, .fragment]
  | instanceState => [.activity, .fragment, .view]
  | nonConfiguration => [.activity]
  | service => [.activity, .fragment, .view, .service]

theorem BindingKind.supports_iff {kind : BindingKind} {role : HostKind} :
    kind.supports role = true ↔ role ∈ kind.hostKinds := by
  cases kind <;> cases role <;> decide

/-! ## Calls that a builder receives -/

namespace ClassBuilder

variable {β : Type} [ClassBuilder β]

theorem replay_append (b : β) (calls more : List BuilderCall) :
    replay b (calls ++ more) = replay (replay b calls) more :=
  List.foldl_append

/-- Appending members is a sequence of calls, one for each member. -/
theorem addMembers_eq_replay (b : β) (ms : List Member) :
    addMembers b ms = replay b (ms.map .addMember) := by
  rw [addMembers, replay, List.foldl_map]
  rfl

end ClassBuilder

namespace Recording

theorem call_eq_note (r : Recording) (c : BuilderCall) : ClassBuilder.call r c = r.note c := by
  cases c <;> rfl

/-- A recording keeps exactly the calls that it receives, in order. -/
theorem replay_eq (r : Recording) (calls : List BuilderCall) :
    ClassBuilder.replay r calls =
      { r with draft := ClassBuilder.replay r.draft calls, calls := r.calls ++ calls } := by
  induction calls generalizing r with
  | nil => simp [ClassBuilder.replay]
  | cons c cs ih =>
    have hstep : ClassBuilder.replay r (c :: cs) = ClassBuilder.replay (r.note c) cs := by
      rw [← call_eq_note]
      rfl
    rw [hstep, ih (r.note c)]
    simp [note, ClassBuilder.replay]

/-- The members of a recording that received no other calls than members. -/
theorem members_replay_addMember (r : Recording) (ms : List Member) :
    (ClassBuilder.replay r (ms.map .addMember)).members = r.members ++ ms := by
  rw [replay_eq, members, members, List.filterMap_append, List.filterMap_map]
  congr 1
  exact List.filterMap_some

end Recording

namespace HostBindings

/-- The kind has fields, but its bindings are not for hosts of this role. -/
def Misfit (bindings : HostBindings) (kind : BindingKind) : Prop :=
  (bindings.stores.get kind).fields ≠ [] ∧ bindings.host.kind ∉ kind.hostKinds

instance (bindings : HostBindings) (kind : BindingKind) : Decidable (bindings.Misfit kind) :=
  inferInstanceAs (Decidable (_ ∧ _))

/-- A kind is in the way, and none of the kinds `before` it is. -/
structure FirstMisfit (bindings : HostBindings) (before : List BindingKind) (kind : BindingKind) :
    Prop where
  front : ∃ after, BindingKind.all = before ++ kind :: after
  fits : ∀ k ∈ before, ¬ bindings.Misfit k
  misfit : bindings.Misfit kind

/-- The members that the store of a kind adds to a class by itself, whatever the other stores
hold. -/
def emitted (bindings : HostBindings) (kind : BindingKind) : List Member :=
  ((bindings.stores.get kind).emit kind bindings.host bindings.options
    (Recording.opened "")).2.members

/-- The calls that begin every binder. -/
def headCalls (options : Options) : List BuilderCall :=
  [.addModifiers [.isPublic, .isFinal], .setSuperclass options.binderClass]

/-- The calls that add the members of some kinds. -/
def memberCalls (bindings : HostBindings) (kinds : List BindingKind) : List BuilderCall :=
  (kinds.flatMap bindings.emitted).map .addMember

/-- The calls that follow the members: the warnings are suppressed if there are any. -/
def closingCalls (bindings : HostBindings) : List BuilderCall :=
  bindings.stores.warnings.suppression?.toList.map .annotate

variable {bindings : HostBindings} {kind : BindingKind}

theorem misfit_iff_not_fits : bindings.Misfit kind ↔ ¬ bindings.Fits kind := by
  rw [Misfit, Fits, BindingKind.supports_iff, Classical.not_imp]

theorem fits_of_not_misfit (h : ¬ bindings.Misfit kind) : bindings.Fits kind := by
  rw [misfit_iff_not_fits] at h
  exact Classical.not_not.mp h

theorem emitted_of_fits (h : bindings.Fits kind) :
    bindings.emitted kind = bindings.membersOf kind := by
  rw [emitted, Store.emit, members_of_fits h]
  dsimp only
  rw [ClassBuilder.addMembers_eq_replay, Recording.members_replay_addMember]
  rfl

/-- What a store adds by itself are the members that its kind makes for its fields, and nothing if
it has none. -/
theorem emitted_of_not_misfit (h : ¬ bindings.Misfit kind) :
    bindings.emitted kind =
      if (bindings.stores.get kind).fields = [] then []
      else kind.members bindings.host bindings.options (bindings.stores.get kind).fields := by
  rw [emitted_of_fits (fits_of_not_misfit h), membersOf]

/-- The kinds in front of the first that is in the way are those that are passed over. -/
theorem FirstMisfit.before_eq {before : List BindingKind} (h : bindings.FirstMisfit before kind) :
    before = BindingKind.all.takeWhile fun k => ¬ bindings.Misfit k := by
  obtain ⟨⟨after, hall⟩, hbefore, hmisfit⟩ := h
  rw [hall, List.takeWhile_append_of_pos (by simpa using hbefore),
    List.takeWhile_cons_of_neg (by simpa using hmisfit), List.append_nil]

/-- Either no kind is in the way, or there is a first one that is. -/
theorem exists_firstMisfit (bindings : HostBindings) :
    (∀ kind, ¬ bindings.Misfit kind) ∨ ∃ before kind, bindings.FirstMisfit before kind := by
  cases hfind : BindingKind.all.find? (bindings.Misfit ·) with
  | none =>
    refine Or.inl fun kind => ?_
    simpa using List.find?_eq_none.mp hfind kind (BindingKind.mem_all kind)
  | some kind =>
    obtain ⟨hmisfit, before, after, hall, hbefore⟩ := List.find?_eq_some_iff_append.mp hfind
    exact Or.inr ⟨before, kind, ⟨after, hall⟩, by simpa using hbefore, by simpa using hmisfit⟩

section Assembly

variable {β : Type} [ClassBuilder β]

theorem addMembers_membersOf {kinds : List BindingKind} (h : ∀ k ∈ kinds, bindings.Fits k)
    (b : β) : ClassBuilder.addMembers b (kinds.flatMap bindings.membersOf) =
      ClassBuilder.replay b (bindings.memberCalls kinds) := by
  have hkinds : kinds.flatMap bindings.emitted = kinds.flatMap bindings.membersOf :=
    List.flatMap_congr fun k hk => emitted_of_fits (h k hk)
  rw [ClassBuilder.addMembers_eq_replay, memberCalls, hkinds]

theorem finish_eq_build (b : β) :
    bindings.finish b = ClassBuilder.build (ClassBuilder.replay b bindings.closingCalls) := by
  rw [finish, closingCalls]
  cases bindings.stores.warnings.suppression? <;> rfl

/-- Without a misfit, the builder receives all members and the annotation, and is closed. -/
theorem assemble_of_no_misfit (h : ∀ kind, ¬ bindings.Misfit kind) (context : BinderContext β) :
    bindings.assemble context =
      Prod.map .ok id (ClassBuilder.build
        (ClassBuilder.replay (context.openClass (context.binderName bindings.host))
          (headCalls context.options ++ bindings.memberCalls BindingKind.all ++
            bindings.closingCalls))) := by
  have hfits : ∀ kind ∈ BindingKind.all, bindings.Fits kind := fun kind _ =>
    fits_of_not_misfit (h kind)
  rw [assemble]
  dsimp only
  rw [emitAll_of_fits hfits, addMembers_membersOf hfits]
  dsimp only
  rw [finish_eq_build, ClassBuilder.replay_append, ClassBuilder.replay_append]
  rfl

/-- The first misfit ends the assembly, and the members in front of it are all that came in behind
the head of the class. -/
theorem assemble_of_firstMisfit {before : List BindingKind} (h : bindings.FirstMisfit before kind)
    (context : BinderContext β) :
    bindings.assemble context =
      (.error (.unsupportedHost kind bindings.host.qualifiedName bindings.host.kind),
        ClassBuilder.replay (context.openClass (context.binderName bindings.host))
          (headCalls context.options ++ bindings.memberCalls before)) := by
  obtain ⟨⟨after, hall⟩, hbefore, hmisfit⟩ := h
  have hfits : ∀ k ∈ before, bindings.Fits k := fun k hk => fits_of_not_misfit (hbefore k hk)
  rw [assemble, hall]
  dsimp only
  rw [emitAll_of_not_fits hfits (misfit_iff_not_fits.mp hmisfit), addMembers_membersOf hfits,
    ClassBuilder.replay_append]
  rfl

theorem exists_ok_iff (context : BinderContext β) :
    (∃ spec, (bindings.assemble context).1 = .ok spec) ↔ ∀ kind, ¬ bindings.Misfit kind := by
  rcases exists_firstMisfit bindings with hnone | ⟨before, kind, hfirst⟩
  · rw [assemble_of_no_misfit hnone]
    exact ⟨fun _ => hnone, fun _ => ⟨_, rfl⟩⟩
  · rw [assemble_of_firstMisfit hfirst]
    exact ⟨fun ⟨spec, hok⟩ => by simp at hok, fun hnone => absurd hfirst.misfit (hnone kind)⟩

/-- What a binder was built from. -/
theorem eq_build_of_assemble_eq_ok {context : BinderContext β} {spec : ClassSpec} {b : β}
    (h : bindings.assemble context = (.ok spec, b)) :
    (spec, b) = ClassBuilder.build
      (ClassBuilder.replay (context.openClass (context.binderName bindings.host))
        (headCalls context.options ++ bindings.memberCalls BindingKind.all ++
          bindings.closingCalls)) := by
  have hnone := (exists_ok_iff context).mp ⟨spec, congrArg Prod.fst h⟩
  have hok : Function.Injective (Except.ok : ClassSpec → Except BindingError ClassSpec) :=
    fun _ _ => Except.ok.inj
  rw [assemble_of_no_misfit hnone] at h
  exact (Function.Injective.prodMap hok Function.injective_id h).symm

/-- Why there is no binder, and what the builder has received. -/
theorem exists_firstMisfit_of_assemble_eq_error {context : BinderContext β} {e : BindingError}
    {b : β} (h : bindings.assemble context = (.error e, b)) :
    ∃ before kind, bindings.FirstMisfit before kind ∧
      e = .unsupportedHost kind bindings.host.qualifiedName bindings.host.kind ∧
      b = ClassBuilder.replay (context.openClass (context.binderName bindings.host))
        (headCalls context.options ++ bindings.memberCalls before) := by
  rcases exists_firstMisfit bindings with hnone | ⟨before, kind, hfirst⟩
  · rw [assemble_of_no_misfit hnone] at h
    exact absurd (congrArg Prod.fst h) (by simp)
  · rw [assemble_of_firstMisfit hfirst] at h
    obtain ⟨he, hb⟩ := Prod.mk.inj h
    exact ⟨before, kind, hfirst, (Except.error.inj he).symm, hb.symm⟩

end Assembly

/-- The members of a finished class description are those that the stores add by themselves. -/
theorem members_of_binder {options : Options} {spec : ClassSpec}
    (h : bindings.binder options = .ok spec) :
    spec.members = BindingKind.all.flatMap bindings.emitted := by
  obtain ⟨hfits, rfl⟩ := binder_eq_ok_iff.mp h
  exact (List.flatMap_congr fun kind _ => emitted_of_fits (hfits kind)).symm

/-- **An assembly goes up to the first misfit.** In any context there is a binder exactly if every
kind that has fields is for hosts of this role; a kind without fields is never in the way. A builder
has then received the head of the class, the members that the stores add by themselves in the order
of the kinds, and the annotation, before it is closed. Otherwise the first kind in this order that
has fields and is not for the host is refused by name. Behind the head of the class, a builder has
then received the members of the kinds in front of it, all of them and nothing else; the calls of a
recording show this. By itself, a store of a kind that is not in the way adds the members that the
kind makes for its fields. -/
theorem assemble_up_to_first_misfit {β : Type} [ClassBuilder β] (bindings : HostBindings)
    (context : BinderContext β) :
    let opened := context.openClass (context.binderName bindings.host)
    ((∃ spec, (bindings.assemble context).1 = .ok spec) ↔
        ∀ kind, (bindings.stores.get kind).fields ≠ [] → bindings.host.kind ∈ kind.hostKinds) ∧
      (∀ spec b, bindings.assemble context = (.ok spec, b) →
        (spec, b) = ClassBuilder.build (ClassBuilder.replay opened
          (headCalls context.options ++ bindings.memberCalls BindingKind.all ++
            bindings.closingCalls))) ∧
      (∀ spec, bindings.binder context.options = .ok spec →
        spec.members = BindingKind.all.flatMap bindings.emitted) ∧
      (∀ e b, bindings.assemble context = (.error e, b) →
        ∃ before kind, bindings.FirstMisfit before kind ∧
          e = .unsupportedHost kind bindings.host.qualifiedName bindings.host.kind ∧
          b = ClassBuilder.replay opened
            (headCalls context.options ++ bindings.memberCalls before)) ∧
      (∀ e r, bindings.assemble .recording = (.error e, r) →
        ∃ before kind, bindings.FirstMisfit before kind ∧
          r.calls = headCalls {} ++ bindings.memberCalls before) ∧
      ∀ kind, ¬ bindings.Misfit kind →
        bindings.emitted kind =
          if (bindings.stores.get kind).fields = [] then []
          else kind.members bindings.host bindings.options (bindings.stores.get kind).fields := by
  refine ⟨?_, fun spec b h => eq_build_of_assemble_eq_ok h, fun spec h => members_of_binder h,
    fun e b h => exists_firstMisfit_of_assemble_eq_error h, ?_,
    fun kind h => emitted_of_not_misfit h⟩
  · rw [exists_ok_iff]
    simp only [Misfit, not_and, not_not]
  · intro e r h
    obtain ⟨before, kind, hfirst, -, rfl⟩ := exists_firstMisfit_of_assemble_eq_error h
    refine ⟨before, kind, hfirst, ?_⟩
    rw [Recording.replay_eq]
    rfl

/-- A view that has views and services has both in its binder; with an extra beside them, the extra
ends the assembly behind the views. -/
theorem assemble_widget_up_to_extra :
    let host : Host := .ofQualifiedName "com.example.Widget" .view
    let icon : Field := { name := "icon", type := "android.view.View", id := some 4 }
    let inflater : Field := { name := "inflater", type := "android.view.LayoutInflater" }
    let stores : Stores := { view := { fields := [icon] }, service := { fields := [inflater] } }
    let widget : HostBindings := { host, stores }
    let extended : HostBindings :=
      { host, stores := { stores with extra := { fields := [{ name := "id", type := "long" }] } } }
    (∃ spec, widget.binder {} = .ok spec ∧
      spec.members =
        BindingKind.members .view host {} [icon] ++
          BindingKind.members .service host {} [inflater]) ∧
      ∃ r, extended.assemble .recording =
          (.error (.unsupportedHost .extra "com.example.Widget" .view), r) ∧
        r.calls = headCalls {} ++ (BindingKind.members .view host {} [icon]).map .addMember := by
  intro host icon inflater stores widget extended
  obtain ⟨-, -, hok, -, -, hown⟩ := assemble_up_to_first_misfit widget .recording
  obtain ⟨-, -, -, -, herror, hown'⟩ := assemble_up_to_first_misfit extended .recording
  constructor
  · have hbinder : widget.binder {} = .ok (widget.fullBinder {}) := by rfl
    have hfits : ∀ kind, ¬ widget.Misfit kind := by
      intro kind
      cases kind <;> decide
    refine ⟨_, hbinder, ?_⟩
    rw [hok _ hbinder, List.flatMap_congr fun kind _ => hown kind (hfits kind)]
    rfl
  · have hassemble : extended.assemble .recording = (.error (.unsupportedHost .extra
        "com.example.Widget" .view), (extended.assemble .recording).2) := by rfl
    obtain ⟨before, kind, hfirst, hcalls⟩ := herror _ _ hassemble
    have hbefore : before = [.view, .preference] := hfirst.before_eq.trans (by decide)
    refine ⟨_, hassemble, ?_⟩
    rw [hcalls, memberCalls, List.flatMap_congr fun k hk => hown' k (hfirst.fits k hk), hbefore]
    rfl

end HostBindings

end Bindery

import Bindery.Proofs.Binding.Emission
import Bindery.Proofs.Binding.Reordering
import Bindery.Proofs.Category.Casts
import Bindery.Proofs.Manifest.BinderPaths

/-!
# Casts of binders

A binder casts the values that it assigns to views, extras, kept instances and services. The casts
of a file are known from the declaration: one for each field, in the order of the kinds. A primitive
type is refused or boxed, so that no cast is to a primitive type, with one gap: types are compared
as they are written, and a primitive type with white space around it is taken for another type,
although it is read as the same one.

## Main results

* `HostDecl.exists_bindings_of_outcome`: the bindings that the file of a host is made of
* `HostBindings.casts_fullBinder`: the casts of a binder
* `primitive_casts_iff`: which casts of a file are read as casts to a primitive type
-/

namespace Bindery

open Source (upTo)
open Output (SourceFile)
open Target (NamesPrimitive isPrimitive)

/-! ## The fields of a file -/

/-- A store that accepts fields holds them behind its own. -/
theorem Store.fields_of_addAll {store after : Store} {kind : BindingKind} {fields : List Field}
    (h : store.addAll kind fields = .ok after) : after.fields = store.fields ++ fields := by
  induction fields generalizing store with
  | nil =>
    obtain rfl := Except.ok.inj h
    exact (List.append_nil _).symm
  | cons f fields ih =>
    rw [addAll_cons] at h
    cases hadd : store.add kind f with
    | error reason => simp [hadd, bind, Except.bind] at h
    | ok next =>
      rw [hadd] at h
      obtain ⟨-, -, rfl⟩ := add_eq_ok_iff.mp hadd
      rw [ih h, List.append_assoc, List.singleton_append]

/-- The file of a host is made of bindings that hold all declared fields, each in the store of its
kind. -/
theorem HostDecl.exists_bindings_of_outcome {d : HostDecl} {options : Options}
    {indent : Source.Indent} {file : SourceFile} (h : d.outcome options indent = .ok file) :
    ∃ bindings : HostBindings, bindings.host = d.host ∧ bindings.Sound ∧
      (∀ kind, (bindings.stores.get kind).fields = HostBindings.offeredTo d.bindings kind) ∧
      file.spec = bindings.fullBinder options := by
  rw [outcome] at h
  cases hbinder : binderOf options d.host d.bindings with
  | error e => simp [hbinder] at h
  | ok spec =>
    rw [hbinder] at h
    obtain rfl := Except.ok.inj h
    obtain ⟨bindings, hadd, hassemble⟩ := binderIn_eq_ok_iff.mp hbinder
    obtain ⟨-, hhost, -, hstores⟩ := HostBindings.addAllMarked_eq_ok_iff.mp hadd
    refine ⟨bindings, hhost, ?_, fun kind => ?_, (HostBindings.binder_eq_ok_iff.mp hassemble).2⟩
    · rw [← HostBindings.run_of_addAllMarked hadd]
      exact HostBindings.sound_run _ _ _
    · have hfields := Store.fields_of_addAll (hstores kind)
      cases kind <;> exact hfields

/-- A field is offered to a kind if it is declared with a marker of the kind. -/
theorem HostDecl.mem_offeredTo_iff {d : HostDecl} {kind : BindingKind} {f : Field} :
    f ∈ HostBindings.offeredTo d.bindings kind ↔
      ∃ g ∈ d.fields, BindingKind.ofMarker? g.bind = some kind ∧ g.field = f := by
  simp only [HostBindings.offeredTo, bindings, List.mem_map, List.mem_filter, decide_eq_true_eq]
  constructor
  · rintro ⟨m, ⟨⟨g, hg, rfl⟩, hkind⟩, rfl⟩
    exact ⟨g, hg, hkind, rfl⟩
  · rintro ⟨g, hg, hkind, rfl⟩
    exact ⟨(g.bind, g.field), ⟨⟨g, hg, rfl⟩, hkind⟩, rfl⟩

/-! ## The casts of a file -/

/-- The casts of a binder are those that its kinds owe to their fields, kind by kind. -/
theorem HostBindings.casts_fullBinder {bindings : HostBindings} (options : Options)
    (hsound : bindings.Sound) (hhost : ' ' ∉ bindings.host.qualifiedName.toList)
    (hnames : ∀ kind, ∀ f ∈ (bindings.stores.get kind).fields, ' ' ∉ f.name.toList) :
    (bindings.fullBinder options).casts =
      BindingKind.all.flatMap fun kind =>
        (bindings.stores.get kind).fields.filterMap kind.cast? := by
  have hkind : ∀ kind, (bindings.membersOf kind).flatMap Member.casts =
      (bindings.stores.get kind).fields.filterMap kind.cast? := by
    intro kind
    rw [membersOf]
    split
    · next hempty => rw [hempty, List.flatMap_nil, List.filterMap_nil]
    · exact Category.casts_members hhost bindings.options (hsound kind).accepted (hnames kind)
  rw [ClassSpec.casts, fullBinder, List.flatMap_assoc]
  exact congrArg (BindingKind.all.flatMap ·) (funext hkind)

/-- No blank stands in a name. -/
theorem Target.IsName.blank_notMem {name : String} (h : IsName name) : ' ' ∉ name.toList :=
  h.notMem (isIdentifierChar_eq_false (by decide) (by decide))

theorem HostDecl.WellFormed.blank_notMem_name {d : HostDecl} (h : d.WellFormed) :
    ' ' ∉ d.name.toList :=
  Target.notMem_of_segments h.segments (by decide)
    (Target.isIdentifierChar_eq_false (by decide) (by decide))

/-- A kind that accepts a field owes it a cast to a primitive type exactly if the type of the field
is read as a primitive one without being one. -/
theorem BindingKind.namesPrimitive_cast?_iff {kind : BindingKind} {f : Field}
    {cast : String × String} (hcheck : kind.check f = .ok ()) (hcast : kind.cast? f = some cast) :
    NamesPrimitive cast.2 ↔ NamesPrimitive (upTo ')' f.type) ∧ isPrimitive f.type = false := by
  cases kind with
  | view =>
    obtain ⟨-, -, -, -, hprimitive⟩ := Category.View.check_eq_ok_iff.mp hcheck
    obtain rfl := Option.some.inj hcast
    exact (and_iff_left hprimitive).symm
  | preference => cases hcast
  | extra =>
    obtain rfl := Option.some.inj hcast
    exact Target.namesPrimitive_boxed_iff f.type
  | instanceState =>
    obtain rfl := Option.some.inj hcast
    exact Target.namesPrimitive_boxed_iff f.type
  | nonConfiguration =>
    obtain rfl := Option.some.inj hcast
    exact Target.namesPrimitive_boxed_iff f.type
  | service =>
    obtain ⟨hprimitive, -⟩ := Category.Service.check_eq_ok_iff.mp hcheck
    obtain rfl := Option.some.inj hcast
    exact (and_iff_left hprimitive).symm

/-- **Casts to primitive types.** Take a host with a file, of a manifest that passes its check. The
casts that are read off the statements of the file are those of the declared fields, in the order of
the kinds: every field but a preference has one. It is read as a cast to a primitive type exactly if
the type of the field is read as a primitive one, up to a closing parenthesis and without the white
space around it, but is not written as the name of one. A type that is written so is boxed, and
views and services do not have one. -/
theorem primitive_casts_iff (m : Manifest) (source : String) (indent : Source.Indent)
    (h : m.check source = .ok ()) (d : HostDecl) (hd : d ∈ m.hosts) (file : SourceFile)
    (hfile : d.outcome m.options indent = .ok file) :
    file.spec.casts = BindingKind.all.flatMap (fun kind =>
        (HostBindings.offeredTo d.bindings kind).filterMap kind.cast?) ∧
      ∀ f ∈ d.fields, ∀ kind, BindingKind.ofMarker? f.bind = some kind → kind ≠ .preference →
        ∃ type, kind.cast? f.field = some (f.name, type) ∧ (f.name, type) ∈ file.spec.casts ∧
          (NamesPrimitive type ↔
            NamesPrimitive (upTo ')' f.type) ∧ isPrimitive f.type = false) ∧
          (kind = .view ∨ kind = .service → isPrimitive f.type = false) := by
  have hwell : d.WellFormed := (Manifest.check_eq_ok_iff.mp h).hosts d hd
  obtain ⟨bindings, hhost, hsound, hfields, hspec⟩ := HostDecl.exists_bindings_of_outcome hfile
  have hcasts : file.spec.casts = BindingKind.all.flatMap fun kind =>
      (HostBindings.offeredTo d.bindings kind).filterMap kind.cast? := by
    rw [hspec, HostBindings.casts_fullBinder m.options hsound]
    · simp only [hfields]
    · rw [hhost, d.host_qualifiedName]
      exact hwell.blank_notMem_name
    · intro kind f hf
      rw [hfields, HostDecl.mem_offeredTo_iff] at hf
      obtain ⟨g, hg, -, rfl⟩ := hf
      exact (hwell.fields g hg).name.blank_notMem
  refine ⟨hcasts, ?_⟩
  intro f hf kind hkind hne
  have hoffered : f.field ∈ HostBindings.offeredTo d.bindings kind :=
    HostDecl.mem_offeredTo_iff.mpr ⟨f, hf, hkind, rfl⟩
  have hcheck : kind.check f.field = .ok () :=
    (hsound kind).accepted f.field (hfields kind ▸ hoffered)
  obtain ⟨type, htype⟩ : ∃ type, kind.cast? f.field = some (f.name, type) := by
    cases kind with
    | preference => exact absurd rfl hne
    | view | extra | instanceState | nonConfiguration | service => exact ⟨_, rfl⟩
  have hprimitive := BindingKind.namesPrimitive_cast?_iff hcheck htype
  refine ⟨type, htype, ?_, hprimitive, ?_⟩
  · rw [hcasts, List.mem_flatMap]
    exact ⟨kind, BindingKind.mem_all kind, List.mem_filterMap.mpr ⟨f.field, hoffered, htype⟩⟩
  · rintro (rfl | rfl)
    · obtain ⟨-, -, -, -, hrefused⟩ := Category.View.check_eq_ok_iff.mp hcheck
      exact hrefused
    · obtain ⟨hrefused, -⟩ := Category.Service.check_eq_ok_iff.mp hcheck
      exact hrefused

/-- A number among the extras is cast to its boxed type. -/
theorem boxed_extra_cast :
    let count : FieldDecl := { name := "count", type := "int", bind := "BindExtra" }
    let main : HostDecl := { name := "a.Main", kind := .activity, fields := [count] }
    let m : Manifest := { hosts := [main] }
    let file : SourceFile :=
      { package := "a",
        spec := (HostBindings.run { host := main.host } [.add .extra count.field]).fullBinder {} }
    m.check "" = .ok () ∧ main.outcome m.options .standard = .ok file ∧
      file.spec.casts = [("count", "java.lang.Integer")] ∧
        ¬ NamesPrimitive "java.lang.Integer" := by
  intro count main m file
  have h : m.check "" = .ok () := by
    dsimp only [m, main, count]
    rfl
  have hfile : main.outcome m.options .standard = .ok file := by
    dsimp only [main, m, file, count]
    rfl
  obtain ⟨hcasts, hfields⟩ := primitive_casts_iff m "" .standard h main (by decide) file hfile
  obtain ⟨type, htype, -, hprimitive, -⟩ :=
    hfields count List.mem_cons_self .extra (by decide) (by decide)
  have hboxed : type = "java.lang.Integer" := by
    have heq := (Prod.mk.inj (Option.some.inj htype)).2
    rw [← heq]
    decide
  rw [hboxed] at hprimitive
  refine ⟨h, hfile, hcasts.trans (by decide), ?_⟩
  rw [hprimitive]
  exact fun hpadded => absurd hpadded.2 (by decide)

/-- A number whose type is written behind a blank is cast to the primitive type: not every cast is
to another type. -/
theorem padded_extra_cast :
    ¬ ∀ (m : Manifest) (source : String) (indent : Source.Indent), m.check source = .ok () →
      ∀ d ∈ m.hosts, ∀ file : SourceFile, d.outcome m.options indent = .ok file →
        ∀ cast ∈ file.spec.casts, ¬ NamesPrimitive cast.2 := by
  intro h
  let count : FieldDecl := { name := "count", type := " int", bind := "BindExtra" }
  let main : HostDecl := { name := "a.Main", kind := .activity, fields := [count] }
  let file : SourceFile :=
    { package := "a",
      spec := (HostBindings.run { host := main.host } [.add .extra count.field]).fullBinder {} }
  have hfile : main.outcome {} .standard = .ok file := by
    dsimp only [main, file, count]
    rfl
  have hcast : ("count", " int") ∈ file.spec.casts := by
    dsimp only [main, file, count]
    decide
  have hcheck : Manifest.check { hosts := [main] } "" = .ok () := by
    dsimp only [main, count]
    rfl
  exact h { hosts := [main] } "" .standard hcheck main List.mem_cons_self file hfile _ hcast
    (by decide)

end Bindery

import Bindery.Proofs.Binding.Misfit

/-!
# Recordings tell what is built

An assembly knows a builder by its answers to calls alone. So a map between builders that every call
goes through carries an assembly along, whether it ends with a class or with a refusal. The draft
of a recording is such a map, and the calls of a recording say all about its draft.

## Main definitions

* `ClassBuilder.IsHom`: a map between builders that every call goes through
* `BinderContext.map`: a context whose builders are seen through a map
* `Recording.Faithful`: the calls of a recording tell its draft

## Main results

* `ClassBuilder.IsHom.assemble_map`: an assembly is carried along by a map between builders
* `Recording.Faithful.replay`: calls keep a recording faithful
* `recorded_as_described`: a recording builds what a class description builds, and its calls tell
  what that is
-/

namespace Bindery

/-! ## Maps between builders -/

namespace ClassBuilder

/-- A map between builders that every call goes through. What is built does not change under it. -/
structure IsHom {β γ : Type} [ClassBuilder β] [ClassBuilder γ] (φ : β → γ) : Prop where
  map_call : ∀ b c, φ (call b c) = call (φ b) c
  build_map : ∀ b, (build (φ b)).1 = (build b).1

end ClassBuilder

/-- The context whose builders are those of another one, seen through a map. -/
def BinderContext.map {β γ : Type} (φ : β → γ) (context : BinderContext β) : BinderContext γ where
  options := context.options
  packageOf := context.packageOf
  classNameIn := context.classNameIn
  openClass name := φ (context.openClass name)

namespace ClassBuilder.IsHom

variable {β γ : Type} [ClassBuilder β] [ClassBuilder γ] {φ : β → γ} (hφ : IsHom φ)

include hφ

theorem map_replay (b : β) (calls : List BuilderCall) :
    φ (replay b calls) = replay (φ b) calls := by
  induction calls generalizing b with
  | nil => rfl
  | cons c cs ih =>
    have hstep := ih (call b c)
    rw [hφ.map_call] at hstep
    exact hstep

/-- What is built, and the builder that is left. -/
theorem build_eq (b : β) : build (φ b) = Prod.map id φ (build b) :=
  Prod.ext (hφ.build_map b) (hφ.map_call b .build).symm

/-- An assembly is carried along by a map between builders, also when it is broken off. -/
theorem assemble_map (bindings : HostBindings) (context : BinderContext β) :
    bindings.assemble (context.map φ) = Prod.map id φ (bindings.assemble context) := by
  have hreplay : ∀ calls,
      replay ((context.map φ).openClass ((context.map φ).binderName bindings.host)) calls =
        φ (replay (context.openClass (context.binderName bindings.host)) calls) := fun calls =>
    (hφ.map_replay _ calls).symm
  rcases bindings.exists_firstMisfit with hnone | ⟨before, kind, hfirst⟩
  · rw [HostBindings.assemble_of_no_misfit hnone, HostBindings.assemble_of_no_misfit hnone,
      hreplay, hφ.build_eq]
    rfl
  · rw [HostBindings.assemble_of_firstMisfit hfirst, HostBindings.assemble_of_firstMisfit hfirst,
      hreplay]
    rfl

end ClassBuilder.IsHom

/-- Whatever becomes of an assembly, the builder is left as some calls have left it. -/
theorem HostBindings.exists_replay_eq_assemble {β : Type} [ClassBuilder β]
    (bindings : HostBindings) (context : BinderContext β) :
    ∃ calls, (bindings.assemble context).2 =
      ClassBuilder.replay (context.openClass (context.binderName bindings.host)) calls := by
  rcases bindings.exists_firstMisfit with hnone | ⟨before, kind, hfirst⟩
  · refine ⟨headCalls context.options ++ bindings.memberCalls BindingKind.all ++
      bindings.closingCalls ++ [.build], ?_⟩
    rw [assemble_of_no_misfit hnone, ClassBuilder.replay_append _ _ [.build]]
    rfl
  · exact ⟨_, congrArg Prod.snd (assemble_of_firstMisfit hfirst context)⟩

/-! ## What the calls of a recording tell -/

/-- Calls do not change the name that a class was opened with. -/
theorem ClassSpec.name_replay (spec : ClassSpec) (calls : List BuilderCall) :
    (ClassBuilder.replay spec calls).name = spec.name := by
  induction calls generalizing spec with
  | nil => rfl
  | cons c cs ih =>
    have hname : (ClassBuilder.call spec c).name = spec.name := by cases c <;> rfl
    rw [← hname]
    exact ih (ClassBuilder.call spec c)

namespace Recording

/-- The draft of a recording is a builder of its own, and answers like the recording. -/
theorem isHom_draft : ClassBuilder.IsHom draft where
  map_call r c := by rw [call_eq_note, note]
  build_map _ := rfl

/-- The calls of a recording tell its draft: made to a class that was just opened, they lead to it,
and the members and annotations among them are those of the draft. -/
structure Faithful (r : Recording) : Prop where
  replay_calls : ClassBuilder.replay (ClassSpec.opened r.draft.name) r.calls = r.draft
  members_eq : r.members = r.draft.members
  annotations_eq : r.annotations = r.draft.annotations

theorem faithful_start (name : String) (opening : Option String) :
    Faithful { draft := ClassSpec.opened name, opening } :=
  ⟨rfl, rfl, rfl⟩

theorem Faithful.note {r : Recording} (h : r.Faithful) (c : BuilderCall) :
    (r.note c).Faithful where
  replay_calls := by
    have hname : (r.note c).draft.name = r.draft.name := ClassSpec.name_replay r.draft [c]
    rw [hname, Recording.note, ClassBuilder.replay_append, h.replay_calls]
    rfl
  members_eq := by
    have hmembers := h.members_eq
    rw [members] at hmembers
    rw [members, Recording.note, List.filterMap_append, hmembers]
    cases c with
    | addMember member => rfl
    | _ => exact List.append_nil _
  annotations_eq := by
    have hannotations := h.annotations_eq
    rw [annotations] at hannotations
    rw [annotations, Recording.note, List.filterMap_append, hannotations]
    cases c with
    | annotate a => rfl
    | _ => exact List.append_nil _

/-- Calls keep a recording faithful. -/
theorem Faithful.replay {r : Recording} (h : r.Faithful) (calls : List BuilderCall) :
    (ClassBuilder.replay r calls).Faithful := by
  induction calls generalizing r with
  | nil => exact h
  | cons c cs ih =>
    have hstep := ih (h.note c)
    rw [← call_eq_note] at hstep
    exact hstep

/-- What is built is the draft. -/
theorem build_fst (r : Recording) : (ClassBuilder.build r).1 = (ClassBuilder.build r).2.draft := rfl

theorem opening_replay (r : Recording) (calls : List BuilderCall) :
    (ClassBuilder.replay r calls).opening = r.opening := by
  rw [replay_eq]

end Recording

namespace HostBindings

variable (bindings : HostBindings)

/-- An assembly that is recorded, seen without the calls, is the assembly in the default context. -/
theorem assemble_describing :
    bindings.assemble (.describing {}) =
      Prod.map id Recording.draft (bindings.assemble .recording) :=
  Recording.isHom_draft.assemble_map bindings .recording

/-- The recording that an assembly leaves is faithful, also when the assembly was broken off. -/
theorem faithful_assemble : (bindings.assemble .recording).2.Faithful := by
  obtain ⟨calls, hcalls⟩ := bindings.exists_replay_eq_assemble .recording
  rw [hcalls]
  exact (Recording.faithful_start _ _).replay calls

/-- The opening that an assembly notes is that of its class. -/
theorem opening_assemble :
    (bindings.assemble .recording).2.opening =
      some (bindings.assemble .recording).2.draft.name := by
  obtain ⟨calls, hcalls⟩ := bindings.exists_replay_eq_assemble .recording
  rw [hcalls, Recording.opening_replay, Recording.isHom_draft.map_replay, ClassSpec.name_replay]
  rfl

/-- A class that was recorded is the draft of the recording. -/
theorem eq_draft_of_assemble {spec : ClassSpec}
    (h : (bindings.assemble .recording).1 = .ok spec) :
    spec = (bindings.assemble .recording).2.draft := by
  have hspec := eq_build_of_assemble_eq_ok (Prod.ext h rfl)
  rw [Prod.ext_iff, Recording.build_fst] at hspec
  exact hspec.1.trans (congrArg Recording.draft hspec.2.symm)

/-- **A recording builds what is described.** A recording that receives calls keeps them, in order,
and builds the class that a class description builds from the same calls; made once more to a class
of that name, the calls that it kept build this class again. So an assembly that is recorded, with
whatever options the bodies of methods follow, ends like the assembly in the default context: with
the same class, or with the same error and the same class so far. If there is a class, its name is
the opening that was noted, its members and annotations are those among the calls, and the calls
made once more build it. -/
theorem recorded_as_described :
    (∀ (name : String) (calls : List BuilderCall),
      let received := ClassBuilder.replay (Recording.opened name) calls
      let recorded := ClassBuilder.build received
      let described := ClassBuilder.build (ClassBuilder.replay (ClassSpec.opened name) calls)
      recorded.1 = described.1 ∧
        received.calls = calls ∧ recorded.2.calls = calls ++ [.build] ∧
        (ClassBuilder.build (ClassBuilder.replay (ClassSpec.opened name) recorded.2.calls)).1 =
          recorded.1) ∧
    ∀ bindings : HostBindings,
      let recorded := bindings.assemble .recording
      let described := bindings.assemble (.describing {})
      recorded.1 = described.1 ∧ recorded.2.draft = described.2 ∧
        ∀ spec, recorded.1 = .ok spec →
          recorded.2.opening = some spec.name ∧
            recorded.2.members = spec.members ∧
            recorded.2.members.map Member.name = spec.members.map Member.name ∧
            recorded.2.annotations = spec.annotations ∧
            (ClassBuilder.build (ClassBuilder.replay (ClassSpec.opened spec.name)
              recorded.2.calls)).1 = spec := by
  refine ⟨fun name calls => ?_, fun bindings => ?_⟩
  · intro received recorded described
    have hdraft : received.draft = ClassBuilder.replay (ClassSpec.opened name) calls :=
      Recording.isHom_draft.map_replay _ calls
    have hcalls : received.calls = calls := congrArg Recording.calls (Recording.replay_eq _ calls)
    have hrecorded : recorded.2.calls = calls ++ [.build] :=
      congrArg (· ++ [BuilderCall.build]) hcalls
    refine ⟨hdraft, hcalls, hrecorded, ?_⟩
    rw [hrecorded, ClassBuilder.replay_append, ← hdraft]
    rfl
  · intro recorded described
    have hdescribed : described = Prod.map id Recording.draft recorded :=
      bindings.assemble_describing
    refine ⟨by rw [hdescribed]; rfl, by rw [hdescribed]; rfl, fun spec hok => ?_⟩
    obtain ⟨hreplay, hmembers, hannotations⟩ := bindings.faithful_assemble
    have hopening := bindings.opening_assemble
    rw [← bindings.eq_draft_of_assemble hok] at hreplay hmembers hannotations hopening
    exact ⟨hopening, hmembers, congrArg (List.map Member.name) hmembers, hannotations, hreplay⟩

/-- A service that is bound with options of its own and needs a warning suppressed. -/
theorem recorded_service :
    let bindings : HostBindings := {
      host := .ofQualifiedName "a.Main" .activity
      options := { runtimePackage := "b" }
      stores := { service := {
        fields := [{ name := "audio", type := "android.media.AudioManager" }]
        warnings := { tokens := ["WrongConstant"] } } } }
    let recorded := bindings.assemble .recording
    ∃ spec, recorded.1 = .ok spec ∧ spec.members.map Member.name = ["bindServices"] ∧
      recorded.2.members = spec.members ∧ recorded.2.annotations = spec.annotations ∧
        (ClassBuilder.build (ClassBuilder.replay (ClassSpec.opened "Main$$Binder")
          recorded.2.calls)).1 = spec := by
  intro bindings recorded
  refine ⟨recorded.2.draft, rfl, rfl, ?_⟩
  obtain ⟨-, hmembers, -, hannotations, hreplay⟩ :=
    (recorded_as_described.2 bindings).2.2 recorded.2.draft rfl
  have hname : recorded.2.draft.name = "Main$$Binder" := by decide +kernel
  rw [hname] at hreplay
  exact ⟨hmembers, hannotations, hreplay⟩

end HostBindings

end Bindery

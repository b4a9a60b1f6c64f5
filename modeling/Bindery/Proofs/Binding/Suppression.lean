import Bindery.Proofs.Binding.Admission
import Bindery.Proofs.Binding.Insertion

/-!
# Suppressed warnings of a binder

Each store keeps the warnings of its fields, and the assembly of a binder merges the stores in the
order of the kinds. A kind causes one warning at most, and the kinds that cause the same one stand
next to each other. So the annotation of a binder lists at most three warnings, each once and in a
fixed order, and which of them it lists is decided by the accepted fields alone.

## Main definitions

* `BindingKind.token`: the one warning that fields of a kind can cause
* `HostBindings.Warned`: each store has the warnings of its fields
* `Suppresses`: what a list of warnings owes to the accepted fields
* `suppressing`: the annotation for a list of warnings

## Main results

* `warned_run`: each store has the warnings of its fields after every run
* `tokens_warnings`: the merged warnings, block by block
* `annotations_of_run`: the annotations of a binder against the accepted fields
-/

namespace Bindery

/-! ## What a kind causes -/

namespace BindingKind

/-- The one warning that fields of a kind can cause. -/
def token : BindingKind → String
  | view => "ResourceType"
  | preference | extra | instanceState | nonConfiguration => "unchecked"
  | service => "WrongConstant"

theorem eq_token_of_mem_warnings {kind : BindingKind} {f : Field} {t : String}
    (h : t ∈ kind.warnings f) : t = kind.token := by
  cases kind with
  | view => exact List.mem_singleton.mp h
  | preference =>
    rw [warnings, Category.Preference.warnings] at h
    split at h
    · exact List.mem_singleton.mp h
    · cases h
  | extra =>
    rw [warnings, Category.Extra.warnings] at h
    split at h
    · exact List.mem_singleton.mp h
    · cases h
  | instanceState =>
    rw [warnings, Category.InstanceState.warnings] at h
    split at h
    · exact List.mem_singleton.mp h
    · cases h
  | nonConfiguration => exact List.mem_singleton.mp h
  | service =>
    rw [warnings, Category.Service.warnings] at h
    split at h
    · exact List.mem_singleton.mp h
    · cases h

theorem warnings_view (f : Field) : warnings .view f = ["ResourceType"] := rfl

theorem warnings_preference_ne_nil_iff {f : Field} :
    warnings .preference f ≠ [] ↔ f.type = "java.util.Set<java.lang.String>" := by
  rw [warnings, Category.Preference.warnings, Category.Preference.stringSet]
  split <;> simp_all

theorem warnings_extra_ne_nil_iff {f : Field} : warnings .extra f ≠ [] ↔ '<' ∈ f.type.toList := by
  rw [warnings, Category.Extra.warnings, Target.isGeneric]
  simp

theorem warnings_instanceState_ne_nil_iff {f : Field} :
    warnings .instanceState f ≠ [] ↔ '<' ∈ f.type.toList :=
  warnings_extra_ne_nil_iff

theorem warnings_nonConfiguration (f : Field) : warnings .nonConfiguration f = ["unchecked"] := rfl

theorem warnings_service_ne_nil_iff {f : Field} :
    warnings .service f ≠ [] ↔ ∃ key, f.key = some key ∧ key ≠ "" := by
  simp only [← Field.explicitKey_eq_some_iff, ← Option.isSome_iff_exists]
  rw [warnings, Category.Service.warnings]
  cases f.explicitKey <;> simp

end BindingKind

/-! ## The warnings of each store -/

namespace HostBindings

/-- Each store has the warnings of its fields, in the order in which these came in. -/
def Warned (bindings : HostBindings) : Prop :=
  ∀ kind, (bindings.stores.get kind).warnings =
    Warnings.empty.insertAll ((bindings.stores.get kind).fields.flatMap kind.warnings)

variable {bindings after : HostBindings}

theorem warned_start (host : Host) (options : Options) : Warned { host, options } := by
  intro kind
  cases kind <;> rfl

theorem Warned.performOn {s : BindingStep} (hwarned : bindings.Warned)
    (h : bindings.performOn s = (.ok (), after)) : after.Warned := by
  obtain ⟨kind, store, -, hstore, rfl⟩ := performOn_ok h
  intro other
  by_cases hkind : other = kind
  · subst hkind
    obtain ⟨-, -, rfl⟩ := Store.add_eq_ok_iff.mp hstore
    simp only [Stores.get_set_self, List.flatMap_append, List.flatMap_singleton,
      Warnings.insertAll_append, hwarned other]
  · simpa [Stores.get_set_of_ne _ _ hkind] using hwarned other

theorem warned_run (host : Host) (options : Options) (steps : List BindingStep) :
    (run { host, options } steps).Warned :=
  run_invariant (warned_start host options) Warned.performOn steps

/-! ## The merged warnings -/

/-- The warnings that the fields of a kind cause, with repetitions. -/
def caused (bindings : HostBindings) (kind : BindingKind) : List String :=
  (bindings.stores.get kind).fields.flatMap kind.warnings

theorem caused_ne_nil_iff {kind : BindingKind} :
    bindings.caused kind ≠ [] ↔
      ∃ f ∈ (bindings.stores.get kind).fields, kind.warnings f ≠ [] := by
  simp [caused]

theorem eq_token_of_mem_caused {kind : BindingKind} {t : String}
    (h : t ∈ bindings.caused kind) : t = kind.token := by
  obtain ⟨f, -, ht⟩ := List.mem_flatMap.mp h
  exact BindingKind.eq_token_of_mem_warnings ht

/-- The fields of some kind cause the warning about conversions without a check. -/
def uncheckedCaused (bindings : HostBindings) : List String :=
  bindings.caused .preference ++ bindings.caused .extra ++ bindings.caused .instanceState ++
    bindings.caused .nonConfiguration

theorem warnings_of_warned (h : bindings.Warned) :
    bindings.stores.warnings =
      ((Warnings.empty.insertAll (bindings.caused .view)).insertAll
        bindings.uncheckedCaused).insertAll (bindings.caused .service) := by
  have hmerge : ∀ (ws : Warnings) (kind : BindingKind),
      ws.merge (bindings.stores.get kind).warnings = ws.insertAll (bindings.caused kind) := by
    intro ws kind
    rw [h kind, Warnings.merge_insertAll, Warnings.merge_empty, caused]
  simp only [Stores.warnings, Stores.toList, BindingKind.all, List.map_cons, List.map_nil,
    List.foldl_cons, List.foldl_nil, hmerge, uncheckedCaused, Warnings.insertAll_append]

/-- The merged warnings are three blocks, each of one warning or of none. -/
theorem tokens_warnings (h : bindings.Warned) :
    bindings.stores.warnings.tokens =
      (if bindings.caused .view = [] then [] else ["ResourceType"]) ++
        ((if bindings.uncheckedCaused = [] then [] else ["unchecked"]) ++
          if bindings.caused .service = [] then [] else ["WrongConstant"]) := by
  have hview : ∀ t ∈ bindings.caused .view, t = "ResourceType" :=
    fun t ht => eq_token_of_mem_caused ht
  have hunchecked : ∀ t ∈ bindings.uncheckedCaused, t = "unchecked" := by
    intro t ht
    simp only [uncheckedCaused, List.mem_append] at ht
    rcases ht with ((ht | ht) | ht) | ht <;> exact eq_token_of_mem_caused ht
  have hservice : ∀ t ∈ bindings.caused .service, t = "WrongConstant" :=
    fun t ht => eq_token_of_mem_caused ht
  rw [warnings_of_warned h, Warnings.insertAll_of_forall_eq hview,
    Warnings.insertAll_of_forall_eq hunchecked, Warnings.insertAll_of_forall_eq hservice]
  split <;> split <;> split <;> rfl

end HostBindings

/-! ## The annotation of a binder -/

/-- The annotation that suppresses a list of warnings. -/
def suppressing (tokens : List String) : AnnotationSpec where
  name := "java.lang.SuppressWarnings"
  members := [("value",
    "\x7b" ++ ", ".intercalate (tokens.map fun t => "\"" ++ t ++ "\"") ++ "\x7d")]

/-- A list of warnings is what the accepted fields ask for: none is repeated, the order is fixed,
and each one is there exactly if an accepted field causes it. -/
structure Suppresses (accepted : BindingKind → List Field) (tokens : List String) : Prop where
  order : tokens.Sublist ["ResourceType", "unchecked", "WrongConstant"]
  resourceType : "ResourceType" ∈ tokens ↔ ∃ f, f ∈ accepted .view
  unchecked : "unchecked" ∈ tokens ↔
    (∃ f ∈ accepted .preference, f.type = "java.util.Set<java.lang.String>") ∨
      (∃ f, (f ∈ accepted .extra ∨ f ∈ accepted .instanceState) ∧ '<' ∈ f.type.toList) ∨
        ∃ f, f ∈ accepted .nonConfiguration
  wrongConstant : "WrongConstant" ∈ tokens ↔
    ∃ f ∈ accepted .service, ∃ key, f.key = some key ∧ key ≠ ""

namespace Suppresses

variable {accepted : BindingKind → List Field} {tokens : List String}

theorem nodup (h : Suppresses accepted tokens) : tokens.Nodup :=
  h.order.nodup (by decide)

theorem eq_nil_iff (h : Suppresses accepted tokens) :
    tokens = [] ↔
      "ResourceType" ∉ tokens ∧ "unchecked" ∉ tokens ∧ "WrongConstant" ∉ tokens := by
  constructor
  · rintro rfl
    exact ⟨List.not_mem_nil, List.not_mem_nil, List.not_mem_nil⟩
  · rintro ⟨hview, hunchecked, hservice⟩
    refine List.eq_nil_iff_forall_not_mem.mpr fun t ht => ?_
    have hmem := h.order.mem ht
    simp only [List.mem_cons, List.not_mem_nil, or_false] at hmem
    rcases hmem with rfl | rfl | rfl
    · exact hview ht
    · exact hunchecked ht
    · exact hservice ht

end Suppresses

namespace HostBindings

variable {bindings : HostBindings}

theorem uncheckedCaused_ne_nil_iff :
    bindings.uncheckedCaused ≠ [] ↔
      bindings.caused .preference ≠ [] ∨
        (bindings.caused .extra ≠ [] ∨ bindings.caused .instanceState ≠ []) ∨
          bindings.caused .nonConfiguration ≠ [] := by
  simp only [uncheckedCaused, ne_eq, List.append_eq_nil_iff, Classical.not_and_iff_not_or_not,
    or_assoc]

/-- The merged warnings are what the fields in the stores ask for. -/
theorem suppresses_tokens (h : bindings.Warned) :
    Suppresses (fun kind => (bindings.stores.get kind).fields)
      bindings.stores.warnings.tokens := by
  have hblock : ∀ (ts : List String) (t : String), (if ts = [] then [] else [t]).Sublist [t] := by
    intro ts t
    split
    · exact List.nil_sublist [t]
    · exact List.Sublist.refl [t]
  have hmem : ∀ (ts : List String) (t u : String),
      u ∈ (if ts = [] then [] else [t]) ↔ ts ≠ [] ∧ u = t := by
    intro ts t u
    split <;> simp_all
  rw [tokens_warnings h]
  refine ⟨(hblock _ _).append ((hblock _ _).append (hblock _ _)), ?_, ?_, ?_⟩
  · simp only [List.mem_append, hmem, caused_ne_nil_iff, BindingKind.warnings_view]
    simp
  · simp only [List.mem_append, hmem, uncheckedCaused_ne_nil_iff, caused_ne_nil_iff,
      BindingKind.warnings_preference_ne_nil_iff, BindingKind.warnings_extra_ne_nil_iff,
      BindingKind.warnings_instanceState_ne_nil_iff,
      BindingKind.warnings_nonConfiguration]
    simp [or_and_right, exists_or]
  · simp only [List.mem_append, hmem, caused_ne_nil_iff, BindingKind.warnings_service_ne_nil_iff]
    simp

theorem suppression?_toList (ws : Warnings) :
    ws.suppression?.toList = if ws.tokens = [] then [] else [suppressing ws.tokens] := by
  rw [Warnings.suppression?]
  simp only [List.isEmpty_iff]
  split <;> rfl

/-- The merged warnings depend on which fields the stores have, and not on their order. -/
theorem tokens_warnings_congr {other : HostBindings} (h : bindings.Warned) (h' : other.Warned)
    (hfields : ∀ kind f, f ∈ (other.stores.get kind).fields ↔
      f ∈ (bindings.stores.get kind).fields) :
    other.stores.warnings.tokens = bindings.stores.warnings.tokens := by
  have hcaused : ∀ kind, other.caused kind = [] ↔ bindings.caused kind = [] := by
    intro kind
    simp only [caused, List.flatMap_eq_nil_iff, hfields]
  have hunchecked : other.uncheckedCaused = [] ↔ bindings.uncheckedCaused = [] := by
    simp only [uncheckedCaused, List.append_eq_nil_iff, hcaused]
  simp only [tokens_warnings h, tokens_warnings h', hcaused, hunchecked]

/-- A run that accepts the same fields as one with a binder has a binder as well, and its
annotations are the same. -/
theorem exists_binder_of_same_fields {host : Host} {options : Options}
    {steps others : List BindingStep} {context : Options} {spec : ClassSpec}
    (h : (run { host, options } steps).binder context = .ok spec)
    (hfields : ∀ kind f, f ∈ acceptedFor { host, options } others kind ↔
      f ∈ acceptedFor { host, options } steps kind) :
    ∃ spec', (run { host, options } others).binder context = .ok spec' ∧
      spec'.annotations = spec.annotations := by
  obtain ⟨hfits, rfl⟩ := binder_eq_ok_iff.mp h
  simp only [← fields_run_start] at hfields
  have hfits' : ∀ kind, (run { host, options } others).Fits kind := by
    intro kind hne
    obtain ⟨f, hf⟩ := List.exists_mem_of_ne_nil _ hne
    have hsupports := hfits kind (List.ne_nil_of_mem ((hfields kind f).mp hf))
    rw [(host_options_run _ steps).1] at hsupports
    rwa [(host_options_run _ others).1]
  refine ⟨_, binder_of_fits hfits', ?_⟩
  rw [fullBinder, fullBinder, suppression?_toList, suppression?_toList,
    tokens_warnings_congr (warned_run host options steps) (warned_run host options others) hfields]

/-- **The annotations of a binder** follow from the accepted fields. If there is a binder after a
run, it has no annotation, or one that suppresses the warnings which the accepted fields cause, each
once and in a fixed order. A run that accepts the same fields, in any order and with any refused
steps between them, leads to the same annotations; and the accepted steps are accepted in any
order. Which of several fields of one name a kind accepts does depend on the order of all steps: it
is the first one that the other rules allow. -/
theorem annotations_of_run (host : Host) (options : Options) (steps : List BindingStep)
    (context : Options) (spec : ClassSpec)
    (h : (run { host, options } steps).binder context = .ok spec) :
    (∃ tokens, Suppresses (acceptedFor { host, options } steps) tokens ∧ tokens.Nodup ∧
        (spec.annotations = [] ↔
          "ResourceType" ∉ tokens ∧ "unchecked" ∉ tokens ∧ "WrongConstant" ∉ tokens) ∧
        spec.annotations = if tokens = [] then [] else [suppressing tokens]) ∧
      (∀ others, (∀ kind f, f ∈ acceptedFor { host, options } others kind ↔
          f ∈ acceptedFor { host, options } steps kind) →
        ∃ spec', (run { host, options } others).binder context = .ok spec' ∧
          spec'.annotations = spec.annotations) ∧
      ∀ reordered, reordered.Perm (accepted { host, options } steps) →
        accepted { host, options } reordered = reordered ∧
          ∃ spec', (run { host, options } reordered).binder context = .ok spec' ∧
            spec'.annotations = spec.annotations := by
  refine ⟨?_, fun others => exists_binder_of_same_fields h, ?_⟩
  · have hsuppresses := suppresses_tokens (warned_run host options steps)
    simp only [fields_run_start] at hsuppresses
    obtain ⟨-, rfl⟩ := binder_eq_ok_iff.mp h
    have hannotations := suppression?_toList (run { host, options } steps).stores.warnings
    refine ⟨_, hsuppresses, hsuppresses.nodup, ?_, hannotations⟩
    rw [← hsuppresses.eq_nil_iff, fullBinder, hannotations]
    simp
  · intro reordered hperm
    exact ⟨accepted_of_perm hperm,
      exists_binder_of_same_fields h (mem_acceptedFor_of_perm hperm)⟩

/-- A generic extra with a refused twin that is not generic, a service with a key, and a view with a
refused private twin, made once in this order and once the other way round. -/
theorem annotations_of_reversed_accepted_steps :
    let start : HostBindings := { host := .ofQualifiedName "a.Main" .activity }
    let items : Field := { name := "items", type := "java.util.List<java.lang.String>" }
    let audio : Field := { name := "audio", type := "android.media.AudioManager", key := some "k" }
    let icon : Field := { name := "icon", type := "android.view.View", id := some 4 }
    let kept : List BindingStep :=
      [.addMarked "BindExtra" items, .add .service audio, .add .view icon]
    let steps : List BindingStep :=
      [.addMarked "BindExtra" items, .add .extra { name := "items", type := "int" },
        .add .service audio, .add .view { icon with modifiers := [.isPrivate] }, .add .view icon]
    (start.run steps).binder {} = .ok ((start.run steps).fullBinder {}) ∧
      start.accepted steps = kept ∧
        ((start.run steps).fullBinder {}).annotations =
          [suppressing ["ResourceType", "unchecked", "WrongConstant"]] ∧
          start.accepted kept.reverse = kept.reverse ∧
            ∃ spec, (start.run kept.reverse).binder {} = .ok spec ∧
              spec.annotations = ((start.run steps).fullBinder {}).annotations := by
  intro start items audio icon kept steps
  have hfits : ∀ kind, (start.run steps).Fits kind := by
    intro kind _
    rw [(host_options_run start steps).1]
    cases kind <;> rfl
  have h : (start.run steps).binder {} = .ok ((start.run steps).fullBinder {}) :=
    binder_of_fits hfits
  have hkept : start.accepted steps = kept := by decide +kernel
  have hperm : kept.reverse.Perm (start.accepted steps) := hkept ▸ List.reverse_perm kept
  exact ⟨h, hkept, by decide +kernel,
    (annotations_of_run start.host start.options steps {} _ h).2.2 kept.reverse hperm⟩

end HostBindings

end Bindery

import Bindery.Manifest.Plan

/-!
# Hosts do not influence one another

The plan of a list of hosts is made of the plans of the single hosts, one behind the other. Each
host adds one file or one failure, and what it adds depends on its own declaration alone. So hosts
can be put in front, replaced or taken out without a change to the files of the others, and as long
as there are no failures the files stand beside their hosts.

## Main definitions

* `HostDecl.preview?`, `HostDecl.failure?`: what a host leads to by itself
* `Plan.append`: two plans, one behind the other
* `Manifest.withHosts`: other hosts with the same options

## Main results

* `ofHosts_append`: the plan of hosts in front of others
* `files_ofHosts`, `previews_ofHosts`, `failures_ofHosts`: a plan against its hosts one by one
* `zip_previews`: without failures, hosts and files pair up
* `plan_of_independent_hosts`: these for the plan of a manifest
-/

namespace Bindery

open Output (SourceFile)

namespace HostDecl

/-- The path and the text of the file of a host, if it has a binder. -/
def preview? (options : Options) (indent : Source.Indent) (d : HostDecl) :
    Option (String × String) :=
  match binderOf options d.host d.bindings with
  | .ok spec =>
    let file : SourceFile := { package := d.host.package, spec, indent }
    some (file.relativePath, file.content)
  | .error _ => none

/-- The failure of a host, if it has no binder: its declared name and the error of its bindings. -/
def failure? (options : Options) (d : HostDecl) : Option HostFailure :=
  match binderOf options d.host d.bindings with
  | .ok _ => none
  | .error error => some { host := d.name, error }

variable {options : Options} {indent : Source.Indent} {d : HostDecl}

theorem outcome_of_binder {spec : ClassSpec} (h : binderOf options d.host d.bindings = .ok spec) :
    d.outcome options indent = .ok { package := d.host.package, spec, indent } := by
  rw [outcome, h]

theorem outcome_of_error {error : BindingError}
    (h : binderOf options d.host d.bindings = .error error) :
    d.outcome options indent = .error { host := d.name, error } := by
  rw [outcome, h]

/-- A host has a file or a failure, and not both. -/
theorem isSome_preview?_iff : (d.preview? options indent).isSome ↔ d.failure? options = none := by
  rw [preview?, failure?]
  cases binderOf options d.host d.bindings <;> simp

end HostDecl

/-! ## Plans one behind the other -/

namespace Plan

/-- Two plans, one behind the other. -/
def append (p q : Plan) : Plan where
  files := p.files ++ q.files
  failures := p.failures ++ q.failures

theorem cons_append (outcome : Except HostFailure SourceFile) (p q : Plan) :
    (cons outcome p).append q = cons outcome (p.append q) := by
  cases outcome <;> rfl

theorem previews_append (p q : Plan) : (p.append q).previews = p.previews ++ q.previews :=
  List.map_append

variable (options : Options) (indent : Source.Indent)

/-- The plan of hosts in front of others is their plan in front of that of the others. -/
theorem ofHosts_append (ds es : List HostDecl) :
    ofHosts options indent (ds ++ es) =
      (ofHosts options indent ds).append (ofHosts options indent es) := by
  induction ds with
  | nil => rfl
  | cons d ds ih => rw [List.cons_append, ofHosts, ofHosts, ih, cons_append]

/-- A single host leads to one file or to one failure. -/
theorem ofHosts_singleton (d : HostDecl) :
    (∃ spec, binderOf options d.host d.bindings = .ok spec ∧
        ofHosts options indent [d] = { files := [{ package := d.host.package, spec, indent }] }) ∨
      ∃ error, binderOf options d.host d.bindings = .error error ∧
        ofHosts options indent [d] = { failures := [{ host := d.name, error }] } := by
  cases h : binderOf options d.host d.bindings with
  | ok spec =>
    refine Or.inl ⟨spec, rfl, ?_⟩
    rw [ofHosts, HostDecl.outcome_of_binder h]
    rfl
  | error error =>
    refine Or.inr ⟨error, rfl, ?_⟩
    rw [ofHosts, HostDecl.outcome_of_error h]
    rfl

/-! ## A plan against its hosts -/

/-- The files of a plan are those of its hosts, in the order of the hosts. -/
theorem files_ofHosts (ds : List HostDecl) :
    (ofHosts options indent ds).files =
      ds.filterMap fun d => (d.outcome options indent).toOption := by
  induction ds with
  | nil => rfl
  | cons d ds ih =>
    rw [ofHosts]
    cases hd : d.outcome options indent with
    | error failure => simp [cons, hd, ih, Except.toOption]
    | ok file => simp [cons, hd, ih, Except.toOption]

theorem previews_ofHosts (ds : List HostDecl) :
    (ofHosts options indent ds).previews = ds.filterMap (HostDecl.preview? options indent) := by
  rw [previews, files_ofHosts, List.map_filterMap]
  refine congrArg (ds.filterMap ·) (funext fun d => ?_)
  rw [HostDecl.preview?, HostDecl.outcome]
  cases binderOf options d.host d.bindings <;> rfl

/-- The failures of a plan are those of its hosts, in the order of the hosts. -/
theorem failures_ofHosts (ds : List HostDecl) :
    (ofHosts options indent ds).failures = ds.filterMap (HostDecl.failure? options) := by
  induction ds with
  | nil => rfl
  | cons d ds ih =>
    rw [ofHosts, List.filterMap_cons, HostDecl.failure?, HostDecl.outcome]
    cases binderOf options d.host d.bindings with
    | error error => exact congrArg _ ih
    | ok spec => exact ih

/-- Files and failures together are as many as the hosts. -/
theorem length_previews_add_length_failures (ds : List HostDecl) :
    (ofHosts options indent ds).previews.length + (ofHosts options indent ds).failures.length =
      ds.length := by
  induction ds with
  | nil => rfl
  | cons d ds ih =>
    rw [← List.singleton_append, ofHosts_append, previews_append, List.length_append, append,
      List.length_append, List.length_append]
    have hone : (ofHosts options indent [d]).previews.length +
        (ofHosts options indent [d]).failures.length = 1 := by
      rcases ofHosts_singleton options indent d with ⟨spec, -, hplan⟩ | ⟨error, -, hplan⟩ <;>
        rw [hplan] <;> rfl
    rw [List.length_singleton]
    omega

variable {options indent}

/-- Without failures every host has a file, and the files stand in the order of the hosts. -/
theorem map_preview?_of_failures_eq_nil {ds : List HostDecl}
    (h : (ofHosts options indent ds).failures = []) :
    ds.map (HostDecl.preview? options indent) = (ofHosts options indent ds).previews.map some := by
  rw [failures_ofHosts, List.filterMap_eq_nil_iff] at h
  rw [previews_ofHosts]
  induction ds with
  | nil => rfl
  | cons d ds ih =>
    rw [List.forall_mem_cons] at h
    obtain ⟨preview, hpreview⟩ := Option.isSome_iff_exists.mp (HostDecl.isSome_preview?_iff.mpr h.1)
    rw [List.map_cons, List.filterMap_cons, hpreview, List.map_cons, ih h.2]

/-- Without failures every host is paired with the path of its own file, and none is left over. -/
theorem zip_previews {ds : List HostDecl} (h : (ofHosts options indent ds).failures = []) :
    ds.zip ((ofHosts options indent ds).previews.map Prod.fst) =
        ds.filterMap (fun d => (d.preview? options indent).map fun file => (d, file.1)) ∧
      (ds.zip ((ofHosts options indent ds).previews.map Prod.fst)).length = ds.length := by
  have hlength : (ofHosts options indent ds).previews.length = ds.length := by
    have hsum := length_previews_add_length_failures options indent ds
    rw [h] at hsum
    exact hsum
  refine ⟨?_, by rw [List.length_zip, List.length_map, hlength, Nat.min_self]⟩
  rw [failures_ofHosts, List.filterMap_eq_nil_iff] at h
  rw [previews_ofHosts]
  clear hlength
  induction ds with
  | nil => rfl
  | cons d ds ih =>
    rw [List.forall_mem_cons] at h
    obtain ⟨file, hfile⟩ := Option.isSome_iff_exists.mp (HostDecl.isSome_preview?_iff.mpr h.1)
    rw [List.filterMap_cons, List.filterMap_cons, hfile, List.map_cons, List.zip_cons_cons, ih h.2]
    rfl

end Plan

/-! ## The plan of a manifest -/

/-- Other hosts with the options of a manifest. -/
def Manifest.withHosts (m : Manifest) (hosts : List HostDecl) : Manifest :=
  { m with hosts }

namespace Manifest

variable (m : Manifest) (indent : Source.Indent)

theorem previews_plan_append (ds es : List HostDecl) :
    ((m.withHosts (ds ++ es)).plan indent).previews =
      ((m.withHosts ds).plan indent).previews ++ ((m.withHosts es).plan indent).previews := by
  have happend := Plan.ofHosts_append m.options indent ds es
  exact (congrArg Plan.previews happend).trans (Plan.previews_append _ _)

theorem failures_plan_append (ds es : List HostDecl) :
    ((m.withHosts (ds ++ es)).plan indent).failures =
      ((m.withHosts ds).plan indent).failures ++ ((m.withHosts es).plan indent).failures :=
  congrArg Plan.failures (Plan.ofHosts_append m.options indent ds es)

/-- The plan of one host is one file or one failure. -/
theorem plan_singleton (d : HostDecl) :
    (∃ spec, binderOf m.options d.host d.bindings = .ok spec ∧
        ((m.withHosts [d]).plan indent).previews =
          [(SourceFile.relativePath { package := d.host.package, spec, indent },
            SourceFile.content { package := d.host.package, spec, indent })] ∧
        ((m.withHosts [d]).plan indent).failures = []) ∨
      ∃ error, binderOf m.options d.host d.bindings = .error error ∧
        ((m.withHosts [d]).plan indent).previews = [] ∧
        ((m.withHosts [d]).plan indent).failures = [{ host := d.name, error }] := by
  have hplan : (m.withHosts [d]).plan indent = Plan.ofHosts m.options indent [d] := rfl
  rw [hplan]
  rcases Plan.ofHosts_singleton m.options indent d with
    ⟨spec, hbinder, hone⟩ | ⟨error, herror, hone⟩
  · refine Or.inl ⟨spec, hbinder, ?_, ?_⟩ <;> rw [hone]
    rfl
  · refine Or.inr ⟨error, herror, ?_, ?_⟩ <;> rw [hone]
    rfl

/-- The plan with one host between others: the files of the others stay as they are, whatever the
one host is, and also if there is none. -/
theorem previews_plan_between (before after : List HostDecl) (d : HostDecl) :
    ((m.withHosts (before ++ d :: after)).plan indent).previews =
      ((m.withHosts before).plan indent).previews ++ (d.preview? m.options indent).toList ++
        ((m.withHosts after).plan indent).previews := by
  have hone : ((m.withHosts [d]).plan indent).previews = (d.preview? m.options indent).toList := by
    refine (Plan.previews_ofHosts m.options indent [d]).trans ?_
    rw [List.filterMap_cons]
    cases d.preview? m.options indent <;> rfl
  rw [← List.singleton_append, previews_plan_append, previews_plan_append, hone, List.append_assoc]

theorem failures_plan_between (before after : List HostDecl) (d : HostDecl) :
    ((m.withHosts (before ++ d :: after)).plan indent).failures =
      ((m.withHosts before).plan indent).failures ++ (d.failure? m.options).toList ++
        ((m.withHosts after).plan indent).failures := by
  have hone : ((m.withHosts [d]).plan indent).failures = (d.failure? m.options).toList := by
    refine (Plan.failures_ofHosts m.options indent [d]).trans ?_
    rw [List.filterMap_cons]
    cases d.failure? m.options <;> rfl
  rw [← List.singleton_append, failures_plan_append, failures_plan_append, hone, List.append_assoc]

end Manifest

/-- **Hosts are independent.** Hosts in front of others have their files and their failures in front
of those of the others. A single host has one file or one failure, with its declared name and the
error of its bindings. So files and failures stand in the order of declaration and number the hosts,
what one host is or whether it is there changes nothing for the others, and without failures each
host is paired with its own file. -/
theorem plan_of_independent_hosts (m : Manifest) (indent : Source.Indent) :
    (∀ ds es,
      ((m.withHosts (ds ++ es)).plan indent).previews =
          ((m.withHosts ds).plan indent).previews ++ ((m.withHosts es).plan indent).previews ∧
        ((m.withHosts (ds ++ es)).plan indent).failures =
          ((m.withHosts ds).plan indent).failures ++ ((m.withHosts es).plan indent).failures) ∧
    (∀ d,
      (∃ spec, binderOf m.options d.host d.bindings = .ok spec ∧
          ((m.withHosts [d]).plan indent).previews =
            [(SourceFile.relativePath { package := d.host.package, spec, indent },
              SourceFile.content { package := d.host.package, spec, indent })] ∧
          ((m.withHosts [d]).plan indent).failures = []) ∨
        ∃ error, binderOf m.options d.host d.bindings = .error error ∧
          ((m.withHosts [d]).plan indent).previews = [] ∧
          ((m.withHosts [d]).plan indent).failures = [{ host := d.name, error }]) ∧
    ((m.plan indent).previews = m.hosts.filterMap (HostDecl.preview? m.options indent) ∧
      (m.plan indent).failures = m.hosts.filterMap (HostDecl.failure? m.options) ∧
      (m.plan indent).previews.length + (m.plan indent).failures.length = m.hosts.length) ∧
    (∀ before d after,
      ((m.withHosts (before ++ d :: after)).plan indent).previews =
          ((m.withHosts before).plan indent).previews ++ (d.preview? m.options indent).toList ++
            ((m.withHosts after).plan indent).previews ∧
        ((m.withHosts (before ++ d :: after)).plan indent).failures =
          ((m.withHosts before).plan indent).failures ++ (d.failure? m.options).toList ++
            ((m.withHosts after).plan indent).failures) ∧
    ((m.plan indent).failures = [] →
      m.hosts.map (HostDecl.preview? m.options indent) = (m.plan indent).previews.map some ∧
        m.hosts.zip ((m.plan indent).previews.map Prod.fst) =
          m.hosts.filterMap (fun d =>
            (d.preview? m.options indent).map fun file => (d, file.1)) ∧
        (m.hosts.zip ((m.plan indent).previews.map Prod.fst)).length = m.hosts.length) := by
  refine ⟨fun ds es => ?_, m.plan_singleton indent, ⟨?_, ?_, ?_⟩, fun before d after => ?_,
    fun hnone => ?_⟩
  · exact ⟨m.previews_plan_append indent ds es, m.failures_plan_append indent ds es⟩
  · exact Plan.previews_ofHosts m.options indent m.hosts
  · exact Plan.failures_ofHosts m.options indent m.hosts
  · exact Plan.length_previews_add_length_failures m.options indent m.hosts
  · exact ⟨m.previews_plan_between indent before after d,
      m.failures_plan_between indent before after d⟩
  · exact ⟨Plan.map_preview?_of_failures_eq_nil hnone, Plan.zip_previews hnone⟩

/-- An activity with a view and a nested class, once by themselves and once with a host between
them whose only field has no resource id. -/
theorem plan_around_failing_host :
    let view : FieldDecl := { name := "icon", type := "android.view.View", bind := "BindView" }
    let main : HostDecl :=
      { name := "a.Main", kind := .activity, fields := [{ view with id := some 3 }] }
    let failing : HostDecl := { name := "a.Failing", kind := .activity, fields := [view] }
    let nested : HostDecl := { name := "a.Outer.Inner" }
    let m : Manifest := { hosts := [main, nested] }
    (m.plan .standard).failures = [] ∧
      m.hosts.zip ((m.plan .standard).previews.map Prod.fst) =
        [(main, "a/Main$$Binder.java"), (nested, "a/Outer$Inner$$Binder.java")] ∧
      ((m.withHosts [main, failing, nested]).plan .standard).previews =
        (m.plan .standard).previews ∧
      ((m.withHosts [main, failing, nested]).plan .standard).failures.map HostFailure.host =
        ["a.Failing"] := by
  intro view main failing nested m
  have hindependent := plan_of_independent_hosts m .standard
  have hnone : (m.plan .standard).failures = [] := by decide +kernel
  have hpairs := (hindependent.2.2.2.2 hnone).2.1
  have hbetween := (hindependent.2.2.2.1 [main] failing [nested]).1
  have happend := (hindependent.1 [main] [nested]).1
  have hfailing : failing.preview? m.options .standard = none := by decide +kernel
  rw [hfailing, Option.toList_none, List.append_nil] at hbetween
  exact ⟨hnone, hpairs.trans (by decide +kernel), hbetween.trans happend.symm, by decide +kernel⟩

end Bindery

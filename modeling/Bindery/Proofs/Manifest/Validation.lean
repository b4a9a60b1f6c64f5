import Bindery.Manifest.Reading
import Bindery.Proofs.Manifest.Rules

/-!
# The first broken rule

The check of a manifest searches the text for places to point at while it looks at the rules. The
search decides nothing: apart from the places, the outcome is the first broken rule of the
declarations, whatever the text is.

## Main definitions

* `Manifest.validate`: the check of a manifest that comes from a file
* `verdict`: the first of some faults

## Main results

* `check_bare`: apart from places, the check reports the first broken rule
* `check_eq_ok_iff`: the check passes exactly the well-formed manifests
* `validate_reports_first_broken_rule`: both of the check with its file, its independence of the
  text, and the host that is found by a name
-/

namespace Bindery

/-- The first of some faults, if there is one. -/
def verdict : List ManifestFault → Except ManifestFault Unit
  | [] => .ok ()
  | fault :: _ => .error fault

theorem verdict_eq_ok_iff {faults : List ManifestFault} :
    verdict faults = .ok () ↔ faults = [] := by
  cases faults <;> simp [verdict]

/-! ## Outcomes apart from places -/

/-- An outcome apart from the places that a fault points at. -/
def bareOutcome (outcome : Except ManifestFault Unit) : Except ManifestFault Unit :=
  outcome.mapError ManifestFault.bare

theorem bareOutcome_eq_ok_iff {outcome : Except ManifestFault Unit} :
    bareOutcome outcome = .ok () ↔ outcome = .ok () := by
  cases outcome <;> simp [bareOutcome, Except.mapError]

/-- If the outcomes of two checks are the first of some faults, then the outcome of one after the
other is the first of all these faults. -/
theorem bareOutcome_bind {first second : Except ManifestFault Unit}
    {faults more : List ManifestFault}
    (h₁ : bareOutcome first = verdict faults) (h₂ : bareOutcome second = verdict more) :
    bareOutcome (first >>= fun _ => second) = verdict (faults ++ more) := by
  cases first with
  | error fault =>
    cases faults with
    | nil => simp [bareOutcome, Except.mapError, verdict] at h₁
    | cons f fs => exact h₁
  | ok _ =>
    cases faults with
    | nil => exact h₂
    | cons f fs => simp [bareOutcome, Except.mapError, verdict] at h₁

/-- The same of the checks of a list. -/
theorem bareOutcome_forM {α : Type} {check : α → Except ManifestFault Unit}
    {faults : α → List ManifestFault} (h : ∀ x, bareOutcome (check x) = verdict (faults x))
    (xs : List α) : bareOutcome (xs.forM check) = verdict (xs.flatMap faults) := by
  induction xs with
  | nil => rfl
  | cons x xs ih => exact bareOutcome_bind (h x) ih

/-! ## The checks one by one -/

namespace Validation

variable (source : List Char)

theorem bareOutcome_checkName (name : String) (role : NameRole) (start : Nat) :
    bareOutcome (checkName source name role start) = verdict (nameFaults name role name) := by
  simp only [checkName, nameFaults, Target.isReserved_iff]
  split
  · rfl
  · cases Target.identifierFault? name <;> rfl

/-- The rule for names accepts what can be a name. -/
theorem checkName_eq_ok_iff {source : List Char} {name : String} {role : NameRole}
    {start : Nat} :
    checkName source name role start = .ok () ↔ Target.IsName name := by
  rw [← bareOutcome_eq_ok_iff, bareOutcome_checkName, verdict_eq_ok_iff, nameFaults_eq_nil_iff]

theorem bareOutcome_checkSegments (name : String) (role : NameRole) (start : Nat)
    (segments : List String) :
    bareOutcome (checkSegments source name role start segments) =
      verdict (segments.flatMap (nameFaults name role)) := by
  induction segments with
  | nil => rfl
  | cons segment segments ih =>
    simp only [checkSegments, List.flatMap_cons, nameFaults, Target.isReserved_iff]
    split
    · rfl
    · cases Target.identifierFault? segment with
      | some fault => rfl
      | none => exact ih

theorem bareOutcome_checkQualifiedName (name : String) (role : NameRole) (start : Nat) :
    bareOutcome (checkQualifiedName source name role start) =
      verdict ((Text.segments name).flatMap (nameFaults name role)) := by
  rw [checkQualifiedName]
  split
  · subst name
    rw [Text.segments_empty]
    rfl
  · exact bareOutcome_checkSegments source name role start _

/-- The rule for qualified names accepts those with segments that can be names. -/
theorem checkQualifiedName_eq_ok_iff {source : List Char} {name : String} {role : NameRole}
    {start : Nat} :
    checkQualifiedName source name role start = .ok () ↔
      ∀ segment ∈ Text.segments name, Target.IsName segment := by
  rw [← bareOutcome_eq_ok_iff, bareOutcome_checkQualifiedName, verdict_eq_ok_iff,
    List.flatMap_eq_nil_iff]
  simp only [nameFaults_eq_nil_iff]

theorem bareOutcome_checkPackage (d : HostDecl) (start : Nat) :
    bareOutcome (checkPackage source d start) = verdict d.packageFaults := by
  rw [checkPackage, HostDecl.packageFaults]
  cases d.package with
  | none => rfl
  | some package =>
    simp only [encloses_eq_true_iff]
    split <;> rfl

theorem bareOutcome_checkField (host : String) (start : Nat) (f : FieldDecl) :
    bareOutcome (checkField source host start f) = verdict (f.faults host) := by
  refine bareOutcome_bind (bareOutcome_checkName source f.name _ start) ?_
  simp only [← Text.trimmed_eq_nil_iff]
  split <;> rfl

theorem bareOutcome_checkHost (d : HostDecl) (start : Nat) :
    bareOutcome (checkHost source d start) =
      verdict (d.packageFaults ++ d.fields.flatMap (FieldDecl.faults d.name)) :=
  bareOutcome_bind (bareOutcome_checkPackage source d start)
    (bareOutcome_forM (bareOutcome_checkField source d.name start) d.fields)

theorem lookup_eq_none_iff {seen : List (String × Nat)} {name : String} :
    seen.lookup name = none ↔ name ∉ seen.map Prod.fst := by
  rw [List.lookup_eq_none_iff, List.mem_map]
  grind

/-- The check of hosts reports the first broken rule of the hosts, given the names that were seen
before; the places that go with these names do not matter. -/
theorem bareOutcome_checkHosts (cursor : Nat) (seen : List (String × Nat)) (ds : List HostDecl) :
    bareOutcome (checkHosts source cursor seen ds) =
      verdict (HostDecl.allFaults (seen.map Prod.fst) ds) := by
  -- the cursor and the table of names change from host to host; only the names of the table decide
  induction ds generalizing cursor seen with
  | nil => rfl
  | cons d ds ih =>
    rw [checkHosts, HostDecl.allFaults, HostDecl.faults]
    cases hseen : seen.lookup d.name with
    | some first =>
      have hmem : d.name ∈ seen.map Prod.fst := by
        by_contra hnew
        rw [lookup_eq_none_iff.mpr hnew] at hseen
        exact absurd hseen (by simp)
      rw [if_pos hmem]
      rfl
    | none =>
      rw [if_neg (lookup_eq_none_iff.mp hseen), List.nil_append, List.append_assoc]
      refine bareOutcome_bind (bareOutcome_checkQualifiedName source d.name .host cursor) ?_
      exact bareOutcome_bind (bareOutcome_checkHost source d _) (ih _ _)

end Validation

/-! ## Manifests -/

namespace Manifest

/-- Apart from places, the check reports the first broken rule. -/
theorem check_bare (m : Manifest) (source : String) :
    bareOutcome (m.check source) = verdict m.faults :=
  Validation.bareOutcome_checkHosts source.toList 0 [] m.hosts

/-- The check passes exactly the well-formed manifests. -/
theorem check_eq_ok_iff {m : Manifest} {source : String} :
    m.check source = .ok () ↔ m.WellFormed := by
  rw [← bareOutcome_eq_ok_iff, check_bare, verdict_eq_ok_iff, faults_eq_nil_iff]

/-- The check of a manifest that was read from `source`, the text of a file. -/
def validate (m : Manifest) (source file : String) : Except ManifestError Unit :=
  (m.check source).mapError fun fault => { fault, file }

/-- A text that has the shape of a manifest is read by validating the manifest. -/
theorem read_eq_validate {text file : String} {entries : Document.Entries} {m : Manifest}
    (hparse : Document.parse? text = some entries) (hshape : Manifest.ofEntries entries = .ok m) :
    read text file = (m.validate text file).map fun _ => m := by
  simp only [read, ofText, hparse, hshape, validate]
  cases m.check text <;> rfl

theorem validate_eq_ok_iff {m : Manifest} {source file : String} :
    m.validate source file = .ok () ↔ m.WellFormed := by
  have hcheck : m.check source = .ok () ↔ m.WellFormed := check_eq_ok_iff
  rw [← hcheck, validate]
  cases m.check source <;> simp [Except.mapError]

/-- An error of the validation is a fault of the check, in the file. -/
theorem validate_eq_error_iff {m : Manifest} {source file : String} {e : ManifestError} :
    m.validate source file = .error e ↔ m.check source = .error e.fault ∧ e.file = file := by
  obtain ⟨fault, name⟩ := e
  rw [validate]
  cases m.check source with
  | ok _ => simp [Except.mapError]
  | error other => simp [Except.mapError, eq_comm]

/-- An error of the validation is the first broken rule, with places, in the file. -/
theorem bare_of_validate_eq_error {m : Manifest} {source file : String} {e : ManifestError}
    (h : m.validate source file = .error e) :
    m.faults.head? = some e.fault.bare ∧ e.file = file := by
  obtain ⟨hcheck, hfile⟩ := validate_eq_error_iff.mp h
  have hbare := m.check_bare source
  rw [hcheck] at hbare
  refine ⟨?_, hfile⟩
  cases hfaults : m.faults with
  | nil => simp [hfaults, verdict, bareOutcome, Except.mapError] at hbare
  | cons first rest =>
    rw [hfaults] at hbare
    exact congrArg some (Except.error.inj hbare).symm

theorem filter_name_of_nodup {ds : List HostDecl} (h : (ds.map HostDecl.name).Nodup)
    (name : String) :
    ds.filter (fun d => d.name == name) = (ds.find? fun d => d.name == name).toList := by
  induction ds with
  | nil => rfl
  | cons d ds ih =>
    rw [List.map_cons, List.nodup_cons] at h
    by_cases hd : d.name = name
    · have hrest : ds.filter (fun e => e.name == name) = [] := by
        rw [List.filter_eq_nil_iff]
        intro e he heq
        rw [beq_iff_eq, ← hd] at heq
        exact h.1 (List.mem_map.mpr ⟨e, he, heq⟩)
      simp [hd, hrest]
    · simpa [hd] using ih h.2

/-- **The first broken rule is reported**: a manifest is accepted exactly if it is well formed; an
error has the name, role, reason and wording of the first broken rule and the name of the file;
neither the text nor the name of the file decides more than the places; and in an accepted manifest,
the look-up of a host finds the one declaration of its name. -/
theorem validate_reports_first_broken_rule (m : Manifest) (source file : String) :
    (m.validate source file = .ok () ↔ m.WellFormed) ∧
      (∀ e, m.validate source file = .error e →
        ∃ fault, m.faults.head? = some fault ∧ e.fault.bare = fault ∧ e.file = file ∧
          e.fault.message = fault.message ∧ e.fault.code = fault.code ∧
          e.fault.help = fault.help) ∧
      (∀ source' file',
        (m.validate source file).mapError (fun e => e.fault.bare) =
          (m.validate source' file').mapError (fun e => e.fault.bare)) ∧
      (m.validate source file = .ok () →
        ∀ name, m.hosts.filter (fun d => d.name == name) = (m.host? name).toList) := by
  refine ⟨validate_eq_ok_iff, ?_, ?_, ?_⟩
  · intro e he
    obtain ⟨hhead, hfile⟩ := bare_of_validate_eq_error he
    exact ⟨e.fault.bare, hhead, rfl, hfile, (ManifestFault.message_bare _).symm,
      (ManifestFault.code_bare _).symm, (ManifestFault.help_bare _).symm⟩
  · intro source' file'
    have hforget : ∀ text name, (m.validate text name).mapError (fun e => e.fault.bare) =
        bareOutcome (m.check text) := by
      intro text name
      rw [validate, bareOutcome]
      cases m.check text <;> rfl
    rw [hforget, hforget, check_bare, check_bare]
  · intro hok name
    exact filter_name_of_nodup (validate_eq_ok_iff.mp hok).names name

end Manifest

end Bindery

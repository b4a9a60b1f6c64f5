import Bindery.Manifest.Validation

/-!
# Faults and their places

What a fault of a check says of the text that was checked, and where the search for its place
started: a name of one segment and a package are searched for themselves, a segment of a longer name
is not, but the whole name.

## Main results

* `Validation.checkQualifiedName_eq_error`: the faults of the name of a host
* `Validation.checkHost_eq_error`: the faults of its package and of its fields
-/

namespace Bindery.Validation

variable {source : List Char} {name : String} {role : NameRole} {start : Nat}
  {fault : ManifestFault}

/-- The fault of a name of one segment is placed where the search for the name arrives. -/
theorem checkName_eq_error (h : checkName source name role start = .error fault) :
    (Target.isReserved name = true ∧ fault = .reservedWord name role (locate source name start)) ∨
      ∃ reason, Target.identifierFault? name = some reason ∧
        fault = .invalidIdentifier name role reason (locate source name start) := by
  rw [checkName] at h
  split at h
  · next hreserved => exact .inl ⟨hreserved, (Except.error.inj h).symm⟩
  · split at h
    · next reason hreason => exact .inr ⟨reason, hreason, (Except.error.inj h).symm⟩
    · cases h

/-- The fault of a segment is placed where the search for the whole name arrives. -/
theorem checkSegments_eq_error {segments : List String}
    (h : checkSegments source name role start segments = .error fault) :
    ∃ segment ∈ segments,
      (Target.isReserved segment = true ∧
          fault = .reservedWord segment role (locate source name start)) ∨
        ∃ reason, Target.identifierFault? segment = some reason ∧
          fault = .invalidIdentifier name role reason (locate source name start) := by
  induction segments with
  | nil => cases h
  | cons segment segments ih =>
    rw [checkSegments] at h
    split at h
    · next hreserved =>
      exact ⟨segment, List.mem_cons_self, .inl ⟨hreserved, (Except.error.inj h).symm⟩⟩
    · split at h
      · next reason hreason =>
        exact ⟨segment, List.mem_cons_self, .inr ⟨reason, hreason, (Except.error.inj h).symm⟩⟩
      · obtain ⟨other, hmem, hfault⟩ := ih h
        exact ⟨other, List.mem_cons_of_mem _ hmem, hfault⟩

/-- The empty name has no place; any other is placed where the search for it arrives. -/
theorem checkQualifiedName_eq_error
    (h : checkQualifiedName source name role start = .error fault) :
    (name = "" ∧ fault = .invalidIdentifier name role .empty none) ∨
      ∃ segment ∈ Text.segments name,
        (Target.isReserved segment = true ∧
            fault = .reservedWord segment role (locate source name start)) ∨
          ∃ reason, Target.identifierFault? segment = some reason ∧
            fault = .invalidIdentifier name role reason (locate source name start) := by
  rw [checkQualifiedName] at h
  split at h
  · next hname => exact .inl ⟨hname, (Except.error.inj h).symm⟩
  · exact .inr (checkSegments_eq_error h)

theorem bind_eq_error {x y : Except ManifestFault Unit} (h : (x >>= fun _ => y) = .error fault) :
    x = .error fault ∨ y = .error fault := by
  cases x with
  | error e => exact .inl h
  | ok => exact .inr h

/-- The first fault of a list is that of one of its items. -/
theorem forM_eq_error {α : Type} {check : α → Except ManifestFault Unit} {as : List α}
    (h : as.forM check = .error fault) :
    ∃ front a more, as = front ++ a :: more ∧ check a = .error fault := by
  induction as with
  | nil => cases h
  | cons a as ih =>
    have h : (check a >>= fun _ => as.forM check) = .error fault := h
    rcases bind_eq_error h with ha | has
    · exact ⟨[], a, as, rfl, ha⟩
    · obtain ⟨front, b, more, rfl, hb⟩ := ih has
      exact ⟨a :: front, b, more, rfl, hb⟩

variable {d : HostDecl}

theorem checkPackage_eq_error (h : checkPackage source d start = .error fault) :
    ∃ package, d.package = some package ∧ encloses package d.name = false ∧
      fault = .packageMismatch package d.name (locate source package start) := by
  rw [checkPackage] at h
  split at h
  · next package hpackage =>
    split at h
    · cases h
    · next hencloses =>
      exact ⟨package, hpackage, Bool.eq_false_iff.mpr hencloses, (Except.error.inj h).symm⟩
  · cases h

/-- The fault of a field is placed where the search for its name arrives, also if its type is at
fault. -/
theorem checkField_eq_error {f : FieldDecl} {host : String}
    (h : checkField source host start f = .error fault) :
    (Target.isReserved f.name = true ∧
        fault = .reservedWord f.name (.fieldOf host) (locate source f.name start)) ∨
      (∃ reason, Target.identifierFault? f.name = some reason ∧
        fault = .invalidIdentifier f.name (.fieldOf host) reason (locate source f.name start)) ∨
      Text.isAllBlank f.type = true ∧
        fault = .blankType f.name host (locate source f.name start) := by
  rcases bind_eq_error h with hname | htype
  · rcases checkName_eq_error hname with hreserved | hinvalid
    · exact .inl hreserved
    · exact .inr (.inl hinvalid)
  · split at htype
    · next hblank => exact .inr (.inr ⟨hblank, (Except.error.inj htype).symm⟩)
    · cases htype

/-- The fault of a host behind its name is that of its package or of one of its fields. -/
theorem checkHost_eq_error (h : checkHost source d start = .error fault) :
    checkPackage source d start = .error fault ∨
      ∃ fs f more, d.fields = fs ++ f :: more ∧
        checkField source d.name start f = .error fault := by
  rcases bind_eq_error h with hpackage | hfields
  · exact .inl hpackage
  · exact .inr (forM_eq_error hfields)

end Bindery.Validation

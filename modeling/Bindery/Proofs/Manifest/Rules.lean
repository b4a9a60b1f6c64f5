import Mathlib.Data.List.TakeWhile
import Bindery.Manifest.Validation
import Bindery.Proofs.Host.Naming

/-!
# The rules of a manifest

The rules that a manifest keeps, stated of the declarations alone: no text is searched, and no rule
depends on whether another one is broken. Each broken rule is a fault, listed in the order in which
the rules are looked at: hosts in order, and for each host its name among the earlier ones, the
segments of its name, its package, and its fields.

## Main definitions

* `ManifestFault.bare`: a fault without the places it points at
* `Manifest.faults`: the broken rules of a manifest
* `Manifest.WellFormed`: what a manifest is that breaks none

## Main results

* `faults_eq_nil_iff`: a manifest breaks no rule exactly if it is well formed
-/

namespace Bindery

/-- The fault without the places that it points at. -/
def ManifestFault.bare : ManifestFault → ManifestFault
  | unreadable path => unreadable path
  | notADocument => notADocument
  | badShape error => badShape { error with span := none }
  | duplicateHost name _ _ => duplicateHost name none none
  | reservedWord name role _ => reservedWord name role none
  | invalidIdentifier name role fault _ => invalidIdentifier name role fault none
  | packageMismatch package host _ => packageMismatch package host none
  | blankType field host _ => blankType field host none

theorem ManifestFault.message_bare (fault : ManifestFault) :
    fault.bare.message = fault.message := by
  cases fault <;> rfl

theorem ManifestFault.code_bare (fault : ManifestFault) : fault.bare.code = fault.code := by
  cases fault <;> rfl

theorem ManifestFault.help_bare (fault : ManifestFault) : fault.bare.help = fault.help := by
  cases fault <;> rfl

/-- The characters of a text between leading and trailing white space. -/
def Text.trimmed (s : String) : List Char :=
  ((s.toList.dropWhile isBlank).reverse.dropWhile isBlank).reverse

/-- A text that can be a name: no reserved word, and well formed. -/
def Target.IsName (segment : String) : Prop :=
  segment ∉ reservedWords ∧ identifierFault? segment = none

theorem Target.isReserved_iff {name : String} : isReserved name = true ↔ name ∈ reservedWords :=
  List.contains_iff_mem

/-! ## Packages -/

theorem encloses_eq_true_iff (package name : String) :
    Validation.encloses package name = true ↔ Encloses package name := by
  rw [Validation.encloses, Bool.or_eq_true, beq_iff_eq, Option.isSome_iff_exists, Encloses]
  simp only [Text.dropPrefix?_bind_dot_eq_some_iff]

instance (package name : String) : Decidable (Encloses package name) :=
  decidable_of_iff _ (encloses_eq_true_iff package name)

/-! ## Broken rules -/

/-- The faults of one segment of a name. -/
def nameFaults (name : String) (role : NameRole) (segment : String) : List ManifestFault :=
  (if segment ∈ Target.reservedWords then [.reservedWord segment role none] else []) ++
    (Target.identifierFault? segment).toList.map fun fault =>
      .invalidIdentifier name role fault none

/-- The faults of a field of the host of the given name. -/
def FieldDecl.faults (host : String) (f : FieldDecl) : List ManifestFault :=
  nameFaults f.name (.fieldOf host) f.name ++
    if Text.trimmed f.type = [] then [.blankType f.name host none] else []

namespace HostDecl

/-- The fault of an explicit package that does not enclose the host. -/
def packageFaults (d : HostDecl) : List ManifestFault :=
  match d.package with
  | some package =>
    if Encloses package d.name then [] else [.packageMismatch package d.name none]
  | none => []

/-- The faults of a host that is declared after hosts of the given names. -/
def faults (earlier : List String) (d : HostDecl) : List ManifestFault :=
  (if d.name ∈ earlier then [.duplicateHost d.name none none] else []) ++
    ((Text.segments d.name).flatMap (nameFaults d.name .host) ++
      (d.packageFaults ++ d.fields.flatMap (FieldDecl.faults d.name)))

/-- The faults of hosts that are declared after hosts of the given names. -/
def allFaults (earlier : List String) : List HostDecl → List ManifestFault
  | [] => []
  | d :: ds => d.faults earlier ++ allFaults (d.name :: earlier) ds

end HostDecl

/-- The broken rules of a manifest, in the order in which the rules are looked at. -/
def Manifest.faults (m : Manifest) : List ManifestFault :=
  HostDecl.allFaults [] m.hosts

/-! ## Well-formed manifests -/

/-- A field with a name and a type that is not blank. -/
structure FieldDecl.WellFormed (f : FieldDecl) : Prop where
  name : Target.IsName f.name
  type : Text.trimmed f.type ≠ []

/-- A host whose name has segments that are names, whose explicit package encloses it, and whose
fields are well formed. -/
structure HostDecl.WellFormed (d : HostDecl) : Prop where
  name_ne : d.name ≠ ""
  segments : ∀ segment ∈ Text.segments d.name, Target.IsName segment
  package : ∀ package, d.package = some package → Encloses package d.name
  fields : ∀ f ∈ d.fields, f.WellFormed

/-- A manifest of well-formed hosts with distinct names. -/
structure Manifest.WellFormed (m : Manifest) : Prop where
  names : (m.hosts.map HostDecl.name).Nodup
  hosts : ∀ d ∈ m.hosts, d.WellFormed

theorem Text.trimmed_eq_nil_iff (s : String) : trimmed s = [] ↔ isAllBlank s = true := by
  rw [trimmed, List.reverse_eq_nil_iff, isAllBlank, List.all_eq_true]
  simp only [List.dropWhile_eq_nil_iff, List.mem_reverse]
  constructor
  · intro h c hc
    rw [← List.takeWhile_append_dropWhile (p := isBlank) (l := s.toList), List.mem_append] at hc
    rcases hc with htake | hdrop
    · exact List.all_eq_true.mp List.all_takeWhile c htake
    · exact h c hdrop
  · exact fun h c hc => h c ((List.dropWhile_sublist isBlank).mem hc)

theorem Target.IsName.ne_empty {segment : String} (h : IsName segment) : segment ≠ "" := by
  rintro rfl
  simp [IsName, identifierFault?] at h

theorem Target.IsName.isIdentifierChar {segment : String} (h : IsName segment) {c : Char}
    (hc : c ∈ segment.toList) : isIdentifierChar c = true := by
  have hfault := h.2
  rw [identifierFault?] at hfault
  cases hs : segment.toList with
  | nil => simp [hs] at hc
  | cons first rest =>
    simp only [hs] at hfault hc
    grind

theorem Target.IsName.notMem {segment : String} (h : IsName segment) {c : Char}
    (hc : Target.isIdentifierChar c = false) : c ∉ segment.toList := by
  intro hmem
  rw [h.isIdentifierChar hmem] at hc
  cases hc

/-- The characters of a dotted name are dots and characters of names. -/
theorem Target.isIdentifierChar_of_segments {name : String}
    (h : ∀ segment ∈ Text.segments name, IsName segment) {c : Char} (hc : c ∈ name.toList) :
    c = '.' ∨ isIdentifierChar c = true := by
  rcases Text.eq_dot_or_mem_segment hc with hdot | ⟨segment, hsegment, hmem⟩
  · exact .inl hdot
  · exact .inr ((h segment hsegment).isIdentifierChar hmem)

theorem Target.notMem_of_segments {name : String}
    (h : ∀ segment ∈ Text.segments name, IsName segment) {c : Char} (hdot : c ≠ '.')
    (hc : isIdentifierChar c = false) : c ∉ name.toList := by
  intro hmem
  rcases isIdentifierChar_of_segments h hmem with heq | heq
  · exact hdot heq
  · rw [heq] at hc
    cases hc

theorem nameFaults_eq_nil_iff {name : String} {role : NameRole} {segment : String} :
    nameFaults name role segment = [] ↔ Target.IsName segment := by
  simp [nameFaults, Target.IsName, Option.toList_eq_nil_iff]

theorem FieldDecl.faults_eq_nil_iff {host : String} {f : FieldDecl} :
    f.faults host = [] ↔ f.WellFormed := by
  rw [faults, List.append_eq_nil_iff, nameFaults_eq_nil_iff, ite_eq_right_iff]
  constructor
  · rintro ⟨hname, htype⟩
    exact ⟨hname, fun hblank => by simpa using htype hblank⟩
  · rintro ⟨hname, htype⟩
    exact ⟨hname, fun hblank => absurd hblank htype⟩

namespace HostDecl

theorem packageFaults_eq_nil_iff {d : HostDecl} :
    d.packageFaults = [] ↔ ∀ package, d.package = some package → Encloses package d.name := by
  rw [packageFaults]
  cases d.package with
  | none => simp
  | some package => simp

/-- A host breaks no rule exactly if its name is new and it is well formed. -/
theorem faults_eq_nil_iff {earlier : List String} {d : HostDecl} :
    d.faults earlier = [] ↔ d.name ∉ earlier ∧ d.WellFormed := by
  simp only [faults, List.append_eq_nil_iff, List.flatMap_eq_nil_iff, nameFaults_eq_nil_iff,
    packageFaults_eq_nil_iff, FieldDecl.faults_eq_nil_iff]
  constructor
  · rintro ⟨hnew, hsegments, hpackage, hfields⟩
    refine ⟨by simpa using hnew, ?_, hsegments, hpackage, hfields⟩
    intro hempty
    refine (hsegments "" ?_).ne_empty rfl
    rw [hempty, Text.segments_empty]
    exact List.mem_singleton_self ""
  · rintro ⟨hnew, hd⟩
    exact ⟨by simpa using hnew, hd.segments, hd.package, hd.fields⟩

/-- Hosts break no rule exactly if their names are distinct and new and each is well formed. -/
theorem allFaults_eq_nil_iff {earlier : List String} {ds : List HostDecl} :
    allFaults earlier ds = [] ↔
      (ds.map name).Nodup ∧ (∀ d ∈ ds, d.name ∉ earlier) ∧ ∀ d ∈ ds, d.WellFormed := by
  induction ds generalizing earlier with
  | nil => simp [allFaults]
  | cons d ds ih =>
    rw [allFaults, List.append_eq_nil_iff, faults_eq_nil_iff, ih, List.map_cons, List.nodup_cons]
    simp only [List.mem_cons, forall_eq_or_imp, not_or, List.mem_map]
    constructor
    · rintro ⟨⟨hnew, hd⟩, hnodup, hrest, hds⟩
      refine ⟨⟨?_, hnodup⟩, ⟨hnew, fun e he => (hrest e he).2⟩, hd, hds⟩
      rintro ⟨e, he, heq⟩
      exact (hrest e he).1 heq
    · rintro ⟨⟨hname, hnodup⟩, ⟨hnew, hrest⟩, hd, hds⟩
      exact ⟨⟨hnew, hd⟩, hnodup, fun e he => ⟨fun heq => hname ⟨e, he, heq⟩, hrest e he⟩, hds⟩

end HostDecl

/-- A manifest breaks no rule exactly if it is well formed. -/
theorem Manifest.faults_eq_nil_iff {m : Manifest} : m.faults = [] ↔ m.WellFormed := by
  rw [faults, HostDecl.allFaults_eq_nil_iff]
  constructor
  · rintro ⟨hnodup, -, hds⟩
    exact ⟨hnodup, hds⟩
  · rintro ⟨hnodup, hds⟩
    exact ⟨hnodup, by simp, hds⟩

end Bindery

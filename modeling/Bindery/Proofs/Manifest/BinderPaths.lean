import Bindery.Proofs.Binding.Assembly
import Bindery.Proofs.Manifest.Independence
import Bindery.Proofs.Manifest.Validation
import Bindery.Proofs.Output.Location
import Bindery.Proofs.Target.Identifier

/-!
# Paths of binders

The binder of a host is named after the binary name of the host, in which a dot between nested
classes and a `$` of the name itself look the same. So two hosts of a well-formed manifest can have
their binders at one path, namely if they lie in one package and have one flat name; there is no
other way, and without a `$` in a name there is none at all.

## Main definitions

* `HostDecl.SameBinder`: two hosts whose binders are one class
* `HostDecl.hasBinder`: a host that leads to a file

## Main results

* `relativePath_eq_iff_sameBinder`: the files of two hosts are at one path exactly if the hosts
  share their binder
* `plan_paths_distinct_iff`: the paths of a plan are distinct exactly if no two hosts share their
  binder
-/

namespace Bindery

open Output (SourceFile IsPart IsPackage)

namespace HostDecl

/-- The hosts lie in one package, and their names agree once every dot is a `$`. -/
def SameBinder (d e : HostDecl) : Prop :=
  d.host.package = e.host.package ∧ d.host.flatName = e.host.flatName

instance (d e : HostDecl) : Decidable (SameBinder d e) :=
  inferInstanceAs (Decidable (_ ∧ _))

/-- Whether the host leads to a file. -/
def hasBinder (options : Options) (indent : Source.Indent) (d : HostDecl) : Bool :=
  (d.outcome options indent).toBool

/-! ## Hosts of well-formed declarations -/

@[simp] theorem host_qualifiedName (d : HostDecl) : d.host.qualifiedName = d.name := by
  rw [host]
  cases d.package <;> rfl

theorem WellFormed.enclosed {d : HostDecl} (h : d.WellFormed) : d.host.Enclosed := by
  rw [host]
  cases hp : d.package with
  | none => exact Host.ofQualifiedName_enclosed d.name d.kind
  | some package => exact h.package package hp

end HostDecl

theorem Target.IsName.isPart {segment : String} (h : IsName segment) : IsPart segment :=
  ⟨h.ne_empty, h.notMem (Target.isIdentifierChar_eq_false (by decide) (by decide))⟩

namespace HostDecl

variable {d e : HostDecl}

theorem WellFormed.slash_notMem_name (h : d.WellFormed) : '/' ∉ d.name.toList :=
  Target.notMem_of_segments h.segments (by decide)
    (Target.isIdentifierChar_eq_false (by decide) (by decide))

/-- The segments of a package are segments of the name. -/
theorem WellFormed.isName_of_mem_package (h : d.WellFormed) (hne : d.host.package ≠ "")
    {segment : String} (hsegment : segment ∈ Text.segments d.host.package) :
    Target.IsName segment := by
  apply h.segments
  obtain hempty | ⟨rest, hrest⟩ := h.enclosed
  · exact absurd hempty hne
  · rw [← host_qualifiedName, hrest, Text.segments_append_dot]
    exact List.mem_append_left _ hsegment

/-- The segments of the package are names, and so they are directories. -/
theorem WellFormed.isPackage (h : d.WellFormed) : IsPackage d.host.package := by
  by_cases hne : d.host.package = ""
  · exact .inl hne
  · exact .inr fun segment hsegment => (h.isName_of_mem_package hne hsegment).isPart

/-- What the file of a host holds. -/
theorem outcome_eq_ok {options : Options} {indent : Source.Indent} {file : SourceFile}
    (h : d.outcome options indent = .ok file) :
    file.package = d.host.package ∧ file.spec.name = d.host.binaryName ++ "$$Binder" := by
  rw [outcome] at h
  cases hbinder : binderOf options d.host d.bindings with
  | error e => simp [hbinder] at h
  | ok spec =>
    rw [hbinder] at h
    obtain rfl := Except.ok.inj h
    refine ⟨rfl, ?_⟩
    rw [HostBindings.name_of_binderOf hbinder, HostBindings.binderName, Host.classNameIn,
      if_pos rfl]

theorem WellFormed.wellPlaced (h : d.WellFormed) {options : Options} {indent : Source.Indent}
    {file : SourceFile} (hfile : d.outcome options indent = .ok file) : file.WellPlaced := by
  obtain ⟨hpackage, hname⟩ := outcome_eq_ok hfile
  refine ⟨hpackage ▸ h.isPackage, ?_⟩
  rw [hname, String.toList_append, List.mem_append]
  rintro (hslash | hslash)
  · rcases Host.eq_dollar_or_mem_of_mem_binaryName h.enclosed hslash with hdollar | ⟨-, hmem⟩
    · exact absurd hdollar (by decide)
    · exact h.slash_notMem_name (d.host_qualifiedName ▸ hmem)
  · exact absurd hslash (by decide)

/-- The files of two hosts are at one path exactly if the hosts share their binder. -/
theorem relativePath_eq_iff_sameBinder (hd : d.WellFormed) (he : e.WellFormed) {options : Options}
    {indent : Source.Indent} {file other : SourceFile} (hfile : d.outcome options indent = .ok file)
    (hother : e.outcome options indent = .ok other) :
    file.relativePath = other.relativePath ↔ d.SameBinder e := by
  rw [SourceFile.relativePath_eq_iff (hd.wellPlaced hfile) (he.wellPlaced hother)]
  obtain ⟨hpackage, hname⟩ := outcome_eq_ok hfile
  obtain ⟨hpackage', hname'⟩ := outcome_eq_ok hother
  rw [hpackage, hpackage', hname, hname', String.append_left_inj, SameBinder]
  exact and_congr_right fun hp => Host.binaryName_eq_iff hd.enclosed he.enclosed hp

/-- Hosts of one name without a `$` share their binder only with themselves. -/
theorem name_eq_of_sameBinder (hd : '$' ∉ d.name.toList) (he : '$' ∉ e.name.toList)
    (h : d.SameBinder e) : d.name = e.name := by
  rw [← host_qualifiedName] at hd he
  simpa using Host.qualifiedName_eq_of_flatName_eq hd he h.2

end HostDecl

/-! ## Plans -/

/-- If a property of files tells hosts apart just as sharing a binder does, then it has no
repetition in a plan exactly if no two hosts with a file share their binder. -/
theorem Plan.nodup_map_files_iff {α : Type} {options : Options} {indent : Source.Indent}
    {ds : List HostDecl} {place : SourceFile → α}
    (h : ∀ d ∈ ds, ∀ e ∈ ds, ∀ file other, d.outcome options indent = .ok file →
      e.outcome options indent = .ok other → (place file = place other ↔ d.SameBinder e)) :
    ((Plan.ofHosts options indent ds).files.map place).Nodup ↔
      (ds.filter (HostDecl.hasBinder options indent)).Pairwise fun d e => ¬ d.SameBinder e := by
  rw [List.Nodup, List.pairwise_map, files_ofHosts, List.pairwise_filterMap, List.pairwise_filter]
  refine List.Pairwise.iff_of_mem fun {d e} hd he => ?_
  rw [HostDecl.hasBinder, HostDecl.hasBinder]
  cases hfile : d.outcome options indent with
  | error _ => simp [Except.toOption, Except.toBool]
  | ok file =>
    cases hother : e.outcome options indent with
    | error _ => simp [Except.toOption, Except.toBool]
    | ok other => simp [Except.toOption, Except.toBool, h d hd e he file other hfile hother]

/-- **Paths of a plan**: for a manifest that passes its check, the files of two hosts are at one
path exactly if the hosts lie in one package and their names agree once every dot is a `$`. So the
paths of a plan are distinct, relative or below any directory, exactly if no two hosts share their
binder in this way; and they are distinct whenever no name has a `$`. -/
theorem plan_paths_distinct_iff (m : Manifest) (source : String) (indent : Source.Indent)
    (h : m.check source = .ok ()) :
    (∀ d ∈ m.hosts, ∀ e ∈ m.hosts, ∀ file other, d.outcome m.options indent = .ok file →
        e.outcome m.options indent = .ok other →
          (file.relativePath = other.relativePath ↔ d.SameBinder e)) ∧
      (((m.plan indent).previews.map Prod.fst).Nodup ↔
        (m.hosts.filter (HostDecl.hasBinder m.options indent)).Pairwise
          fun d e => ¬ d.SameBinder e) ∧
      (∀ output, ((m.plan indent).files.map fun file => file.pathIn output).Nodup ↔
        (m.hosts.filter (HostDecl.hasBinder m.options indent)).Pairwise
          fun d e => ¬ d.SameBinder e) ∧
      ((∀ d ∈ m.hosts, '$' ∉ d.name.toList) → ((m.plan indent).previews.map Prod.fst).Nodup) := by
  have hm : m.WellFormed := Manifest.check_eq_ok_iff.mp h
  have hpaths : ∀ d ∈ m.hosts, ∀ e ∈ m.hosts, ∀ file other,
      d.outcome m.options indent = .ok file → e.outcome m.options indent = .ok other →
        (file.relativePath = other.relativePath ↔ d.SameBinder e) :=
    fun d hd e he file other hfile hother =>
      HostDecl.relativePath_eq_iff_sameBinder (hm.hosts d hd) (hm.hosts e he) hfile hother
  have hpreviews : (m.plan indent).previews.map Prod.fst =
      (m.plan indent).files.map SourceFile.relativePath := by
    rw [Plan.previews, List.map_map]
    rfl
  have hrelative := Plan.nodup_map_files_iff hpaths
  refine ⟨hpaths, hpreviews ▸ hrelative, ?_, ?_⟩
  · intro output
    refine Plan.nodup_map_files_iff fun d hd e he file other hfile hother => ?_
    rw [SourceFile.pathIn_eq_iff ((hm.hosts d hd).wellPlaced hfile)
      ((hm.hosts e he).wellPlaced hother)]
    exact hpaths d hd e he file other hfile hother
  · intro hdollar
    rw [hpreviews]
    refine hrelative.mpr ?_
    have hnames := List.pairwise_map.mp hm.names
    refine (hnames.imp_of_mem fun {d e} hd he hne hsame => hne ?_).filter _
    exact HostDecl.name_eq_of_sameBinder (hdollar d hd) (hdollar e he) hsame

/-- A nested class, its outer class and a class of another package have binders at three paths. -/
theorem nested_paths_distinct :
    let m : Manifest :=
      { hosts := [{ name := "a.b.Outer.Inner" }, { name := "a.b.Outer" },
          { name := "a.b.Outer.Other", package := some "a.b.Outer" }] }
    m.check "" = .ok () ∧ ((m.plan .standard).previews.map Prod.fst).Nodup :=
  ⟨by decide +kernel,
    (plan_paths_distinct_iff _ "" .standard (by decide +kernel)).2.2.2 (by decide)⟩

/-- A `$` in a name and a dot between nested classes lead to one path: distinct hosts that pass the
check do not have binders at distinct paths. -/
theorem dollar_and_dot_share_path :
    ¬ ∀ (m : Manifest) (source : String) (indent : Source.Indent), m.check source = .ok () →
      ((m.plan indent).previews.map Prod.fst).Nodup := by
  intro h
  have htwins := h { hosts := [{ name := "a.b.B$C" }, { name := "a.b.B.C" }] } "" .standard
    (by decide +kernel)
  revert htwins
  decide +kernel

end Bindery

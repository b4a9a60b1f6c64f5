import Bindery.Proofs.Manifest.BinderPaths

/-!
# Names of binders

The binder of a host is named after the binary name of the host. For the hosts of a manifest that
passes its check this is a name again: it starts as the first class of the host does, its further
characters come from the segments of the host's name or are dollar signs, and a dollar sign keeps it
apart from all reserved words.

## Main results

* `WellFormed.isName_binderName`: the binder of a well-formed host is named by an identifier
* `binder_names_faithful`: binary names against packages and names, for derived packages, for
  declared hosts, and seen from any package
-/

namespace Bindery

namespace Target

theorem dollar_notMem_of_mem_reservedWords {word : String} (h : word ∈ reservedWords) :
    '$' ∉ word.toList := by
  revert word
  decide +kernel

theorem IsName.dot_notMem {segment : String} (h : IsName segment) : '.' ∉ segment.toList :=
  h.notMem (isIdentifierChar_eq_false (by decide) (by decide))

/-- A name with characters of names behind it, one of them a `$`, is a name. -/
theorem IsName.append {front rest : String} (hfront : IsName front) (hdollar : '$' ∈ rest.toList)
    (hrest : ∀ c ∈ rest.toList, Target.isIdentifierChar c = true) : IsName (front ++ rest) := by
  constructor
  · intro hreserved
    apply dollar_notMem_of_mem_reservedWords hreserved
    rw [String.toList_append]
    exact List.mem_append_right _ hdollar
  · obtain ⟨c, cs, hcs, hdigit, hchars⟩ := identifierFault?_eq_none_iff.mp hfront.2
    rw [identifierFault?_eq_none_iff]
    refine ⟨c, cs ++ rest.toList, by rw [String.toList_append, hcs]; rfl, hdigit, ?_⟩
    rw [← List.cons_append]
    intro c' hc'
    rcases List.mem_append.mp hc' with hmem | hmem
    · exact hchars c' hmem
    · exact hrest c' hmem

end Target

namespace HostDecl

variable {d : HostDecl}

/-- What stands behind the package is made of segments of the name. -/
theorem WellFormed.segments_relativeName (h : d.WellFormed) {segment : String}
    (hsegment : segment ∈ Text.segments d.host.relativeName) : Target.IsName segment := by
  apply h.segments
  rw [← host_qualifiedName]
  by_cases hp : d.host.package = ""
  · rwa [Host.relativeName_of_package_empty hp] at hsegment
  · obtain hempty | ⟨rest, hrest⟩ := h.enclosed
    · exact absurd hempty hp
    · rw [Host.relativeName_of_append hp hrest] at hsegment
      rw [hrest, Text.segments_append_dot]
      exact List.mem_append_right _ hsegment

/-- The binary name starts with the first class of the host. -/
theorem WellFormed.binaryName_starts (h : d.WellFormed) :
    ∃ front rest, d.host.binaryName = front ++ rest ∧ Target.IsName front := by
  obtain ⟨front, more, hsegments⟩ :=
    List.exists_cons_of_ne_nil (Text.segments_ne_nil d.host.relativeName)
  have hfront : Target.IsName front := h.segments_relativeName (hsegments ▸ List.mem_cons_self ..)
  have hdot := hfront.dot_notMem
  have hname : d.host.relativeName = Text.join "." (front :: more) := by
    rw [← hsegments, Text.join_segments]
  rw [Host.binaryName, hname]
  cases more with
  | nil =>
    refine ⟨front, "", ?_, hfront⟩
    rw [Text.join, String.intercalate_singleton, Text.replaceChar_of_notMem hdot,
      String.append_empty]
  | cons next more =>
    refine ⟨front, Text.replaceChar '.' '$' ("." ++ Text.join "." (next :: more)), ?_, hfront⟩
    rw [Text.join, String.intercalate_cons_cons, String.append_assoc, Text.replaceChar_append,
      Text.replaceChar_of_notMem hdot]
    rfl

theorem WellFormed.isIdentifierChar_of_mem_binaryName (h : d.WellFormed) {c : Char}
    (hc : c ∈ d.host.binaryName.toList) : Target.isIdentifierChar c = true := by
  rcases Host.eq_dollar_or_mem_of_mem_binaryName h.enclosed hc with rfl | ⟨hdot, hmem⟩
  · exact Target.isIdentifierChar_of_ascii (by decide)
  · rw [host_qualifiedName] at hmem
    exact (Target.isIdentifierChar_of_segments h.segments hmem).resolve_left hdot

/-- The binder of a well-formed host is named by an identifier. -/
theorem WellFormed.isName_binderName (h : d.WellFormed) :
    Target.IsName (HostBindings.binderName d.host) := by
  obtain ⟨front, rest, hname, hfront⟩ := h.binaryName_starts
  have hbinder : HostBindings.binderName d.host = front ++ (rest ++ "$$Binder") := by
    rw [HostBindings.binderName, Host.classNameIn, if_pos rfl, hname, String.append_assoc]
  rw [hbinder]
  apply hfront.append
  · rw [String.toList_append]
    exact List.mem_append_right _ List.mem_cons_self
  · intro c hc
    rw [String.toList_append] at hc
    rcases List.mem_append.mp hc with hmem | hmem
    · apply h.isIdentifierChar_of_mem_binaryName
      rw [hname, String.toList_append]
      exact List.mem_append_right _ hmem
    · have hsuffix : "$$Binder".toList.all Target.isIdentifierChar = true := by decide +kernel
      exact List.all_eq_true.mp hsuffix c hmem

end HostDecl

/-- **Names of binders are faithful.** A package that is read off any name, and the package of any
host of a manifest that passes its check, fits the name: its segments come first and are not all of
the name, so that the binary name is what is left behind the package, without a dot, and gives the
name back if this has no `$`. For such a manifest the name of the binder is accepted by the rule for
names. Seen from a package, own or other, a host is called by what the qualified name and the
package alone determine: the rest behind the package, or else the whole name. -/
theorem binder_names_faithful :
    (∀ name kind, (Host.ofQualifiedName name kind).NamedFaithfully) ∧
    (∀ (m : Manifest) (source : String), m.check source = .ok () → ∀ d ∈ m.hosts,
      d.host.NamedFaithfully ∧
        ∀ text role start, Validation.checkName text
          (d.host.classNameIn d.host.package ++ "$$Binder") role start = .ok ()) ∧
    (∀ (host : Host) (package : String),
      host.classNameIn package =
          Host.binaryName { qualifiedName := host.qualifiedName, package } ∧
        (∀ other : Host, other.qualifiedName = host.qualifiedName →
          other.classNameIn package = host.classNameIn package) ∧
        (∀ rest, package ≠ "" → host.qualifiedName = package ++ "." ++ rest →
          host.classNameIn package = Text.replaceChar '.' '$' rest) ∧
        (package = "" ∨ ¬ Encloses package host.qualifiedName →
          host.classNameIn package = Text.replaceChar '.' '$' host.qualifiedName)) := by
  refine ⟨fun name kind => ?_, fun m source h d hd => ?_, fun host package => ?_⟩
  · exact (Host.ofQualifiedName_enclosed name kind).namedFaithfully
  · have hwell : d.WellFormed := (Manifest.check_eq_ok_iff.mp h).hosts d hd
    refine ⟨hwell.enclosed.namedFaithfully, fun text role start => ?_⟩
    exact Validation.checkName_eq_ok_iff.mpr hwell.isName_binderName
  · refine ⟨host.classNameIn_eq package, fun other hname => ?_, fun rest hp hrest => ?_,
      Host.classNameIn_eq_flatName⟩
    · rw [Host.classNameIn_eq, Host.classNameIn_eq, hname]
    · exact Host.classNameIn_of_append hp hrest

/-- A nested class in an explicit package, the same class with the package read off its name, and a
class of the default package whose name starts with a small letter. -/
theorem nested_binder_names :
    let nested : HostDecl := { name := "a.b.Outer.Inner", package := some "a.b.Outer" }
    let derived : HostDecl := { name := "a.b.Outer.Other" }
    let small : HostDecl := { name := "widget" }
    let m : Manifest := { hosts := [nested, derived, small] }
    m.check "" = .ok () ∧
      [nested, derived, small].map (fun d => d.host.classNameIn d.host.package ++ "$$Binder") =
        ["Inner$$Binder", "Outer$Other$$Binder", "widget$$Binder"] ∧
      (∀ d ∈ m.hosts, d.host.NamedFaithfully ∧ Validation.checkName []
        (d.host.classNameIn d.host.package ++ "$$Binder") .host 0 = .ok ()) ∧
      (nested.host.classNameIn "a.b" = "Outer$Inner" ∧
        nested.host.classNameIn "a.c" = "a$b$Outer$Inner") := by
  intro nested derived small m
  have h : m.check "" = .ok () := by decide +kernel
  obtain ⟨-, hhosts, hseen⟩ := binder_names_faithful
  refine ⟨h, by decide +kernel, fun d hd => ?_, ?_, ?_⟩
  · obtain ⟨hfaithful, hname⟩ := hhosts m "" h d hd
    exact ⟨hfaithful, hname [] .host 0⟩
  · exact ((hseen nested.host "a.b").2.2.1 "Outer.Inner" (by decide) (by decide)).trans (by decide)
  · exact ((hseen nested.host "a.c").2.2.2 (.inr (by decide))).trans (by decide)

end Bindery

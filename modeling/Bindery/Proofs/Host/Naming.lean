import Bindery.Host
import Bindery.Proofs.Text.Dotted

/-!
# Binary names

A host lies in a package that its name goes on behind. This holds of every host whose package is
read off its name, and it makes the binary name what stands behind the package, with `$` between
nested classes. So within one package the binary name and the qualified name with `$` for every dot
tell the same hosts apart.

## Main definitions

* `Encloses`: a package is empty or stands in front of a name
* `Host.Enclosed`: the package of a host encloses its name
* `Host.flatName`: the qualified name with `$` for every dot
* `Host.NamedFaithfully`: a host whose binary name is what its package leaves of its name

## Main results

* `ofQualifiedName_enclosed`: a package that is read off the name encloses the host
* `binaryName_eq_iff`: within a package, binary names are equal exactly if the flat names are
* `Enclosed.namedFaithfully`: a package that encloses the name makes the binary name faithful
* `classNameIn_eq`: the name seen from a package depends on the qualified name and the package alone
-/

namespace Bindery

/-- A package encloses a name: it is the default package, or the name goes on behind it with a dot.
-/
def Encloses (package name : String) : Prop :=
  package = "" ∨ ∃ rest, name = package ++ "." ++ rest

namespace Host

/-- The package of the host encloses its name. -/
def Enclosed (host : Host) : Prop :=
  Encloses host.package host.qualifiedName

/-- The qualified name with `$` for every dot. -/
def flatName (host : Host) : String :=
  Text.replaceChar '.' '$' host.qualifiedName

/-! ## Packages read off the name -/

/-- A package that is read off a name is empty or stands in front of the name. -/
theorem packageOf_encloses (name : String) : Encloses (packageOf name) name := by
  have hsplit := List.dropLast_concat_getLast (Text.segments_ne_nil name)
  have htake := List.takeWhile_append_dropWhile (p := isPackageSegment)
    (l := (Text.segments name).dropLast)
  rw [Encloses, packageOf]
  generalize ((Text.segments name).dropLast).takeWhile isPackageSegment = front at htake ⊢
  generalize ((Text.segments name).dropLast).dropWhile isPackageSegment = middle at htake
  generalize (Text.segments name).getLast (Text.segments_ne_nil name) = last at hsplit
  by_cases hfront : front = []
  · rw [hfront]
    exact .inl String.intercalate_nil
  · refine .inr ⟨Text.join "." (middle ++ [last]), ?_⟩
    calc name = Text.join "." (Text.segments name) := (Text.join_segments name).symm
      _ = Text.join "." (front ++ (middle ++ [last])) := by
          rw [← List.append_assoc, htake, hsplit]
      _ = Text.join "." front ++ "." ++ Text.join "." (middle ++ [last]) :=
          String.intercalate_append_of_ne_nil hfront (by simp)

theorem ofQualifiedName_enclosed (name : String) (kind : HostKind) :
    (ofQualifiedName name kind).Enclosed :=
  packageOf_encloses name

/-! ## Names behind a package -/

theorem relativeName_of_package_empty {host : Host} (h : host.package = "") :
    host.relativeName = host.qualifiedName := by
  rw [relativeName, if_pos h]

theorem relativeName_of_append {host : Host} {rest : String} (hne : host.package ≠ "")
    (h : host.qualifiedName = host.package ++ "." ++ rest) : host.relativeName = rest := by
  rw [relativeName, if_neg hne, Text.dropPrefix?_bind_dot_eq_some_iff.mpr h, Option.getD_some]

/-- The flat name of an enclosed host is its binary name behind the flat package. -/
theorem flatName_eq {host : Host} (h : host.Enclosed) :
    host.flatName =
      if host.package = "" then host.binaryName
      else Text.replaceChar '.' '$' (host.package ++ ".") ++ host.binaryName := by
  by_cases hp : host.package = ""
  · rw [if_pos hp, binaryName, relativeName_of_package_empty hp, flatName]
  · obtain hempty | ⟨rest, hrest⟩ := h
    · exact absurd hempty hp
    · rw [if_neg hp, binaryName, relativeName_of_append hp hrest, flatName, hrest,
        Text.replaceChar_append]

/-- Within a package, the binary name and the flat name tell the same hosts apart. -/
theorem binaryName_eq_iff {a b : Host} (ha : a.Enclosed) (hb : b.Enclosed)
    (hp : a.package = b.package) : a.binaryName = b.binaryName ↔ a.flatName = b.flatName := by
  rw [flatName_eq ha, flatName_eq hb, hp]
  split
  · exact Iff.rfl
  · exact ⟨fun h => by rw [h], fun h => by simpa using h⟩

/-- Names without a `$` are told apart by their flat forms. -/
theorem qualifiedName_eq_of_flatName_eq {a b : Host} (ha : '$' ∉ a.qualifiedName.toList)
    (hb : '$' ∉ b.qualifiedName.toList) (h : a.flatName = b.flatName) :
    a.qualifiedName = b.qualifiedName :=
  Text.replaceChar_injective_of_notMem ha hb h

/-- A character of a binary name is a `$`, or a character of the qualified name other than a dot. -/
theorem eq_dollar_or_mem_of_mem_binaryName {host : Host} (h : host.Enclosed) {c : Char}
    (hc : c ∈ host.binaryName.toList) : c = '$' ∨ c ≠ '.' ∧ c ∈ host.qualifiedName.toList := by
  rw [binaryName, Text.toList_replaceChar, List.mem_map] at hc
  obtain ⟨c', hc', rfl⟩ := hc
  have hmem : c' ∈ host.qualifiedName.toList := by
    by_cases hp : host.package = ""
    · rwa [relativeName_of_package_empty hp] at hc'
    · obtain hempty | ⟨rest, hrest⟩ := h
      · exact absurd hempty hp
      · rw [relativeName_of_append hp hrest] at hc'
        rw [hrest, String.toList_append]
        exact List.mem_append_right _ hc'
  by_cases hdot : c' = '.'
  · exact .inl (if_pos hdot)
  · rw [if_neg hdot]
    exact .inr ⟨hdot, hmem⟩

/-! ## Names that are given back -/

/-- A host whose package and binary name fit its name together: the package is made of the first
segments, it can be dropped from the name, and what is left gives the name back. -/
structure NamedFaithfully (host : Host) : Prop where
  /-- The segments of the package come first in the name, and more follow. -/
  segments : host.package = "" ∨ ∃ rest ≠ [],
    Text.segments host.qualifiedName = Text.segments host.package ++ rest
  /-- The package and a dot are dropped, so that the whole name never stands in for the rest. -/
  dropped : host.package = "" ∨ ∃ rest,
    (Text.dropPrefix? host.package host.qualifiedName).bind (Text.dropPrefix? ".") = some rest ∧
      host.relativeName = rest
  /-- The binary name is a single segment. -/
  dot_notMem : '.' ∉ host.binaryName.toList
  /-- Without a `$` in the name, dots for dollar signs behind the package give the name back. -/
  restored : '$' ∉ host.qualifiedName.toList →
    (if host.package = "" then "" else host.package ++ ".") ++
      Text.replaceChar '$' '.' host.binaryName = host.qualifiedName

theorem dot_notMem_binaryName (host : Host) : '.' ∉ host.binaryName.toList :=
  Text.notMem_replaceChar (by decide) host.relativeName

/-- A package that encloses the name makes the binary name faithful. -/
theorem Enclosed.namedFaithfully {host : Host} (h : host.Enclosed) : host.NamedFaithfully := by
  by_cases hp : host.package = ""
  · refine ⟨.inl hp, .inl hp, host.dot_notMem_binaryName, fun hdollar => ?_⟩
    rw [if_pos hp, String.empty_append, binaryName, relativeName_of_package_empty hp,
      Text.replaceChar_replaceChar_of_notMem hdollar]
  · obtain hempty | ⟨rest, hrest⟩ := h
    · exact absurd hempty hp
    have hrelative : host.relativeName = rest := relativeName_of_append hp hrest
    refine ⟨.inr ⟨Text.segments rest, Text.segments_ne_nil rest, ?_⟩,
      .inr ⟨rest, Text.dropPrefix?_bind_dot_eq_some_iff.mpr hrest, hrelative⟩,
      host.dot_notMem_binaryName, fun hdollar => ?_⟩
    · rw [hrest, Text.segments_append_dot]
    · have hdollarRest : '$' ∉ rest.toList := by
        rw [hrest, String.toList_append, List.mem_append, not_or] at hdollar
        exact hdollar.2
      rw [if_neg hp, binaryName, hrelative, Text.replaceChar_replaceChar_of_notMem hdollarRest,
        hrest]

/-! ## Names seen from a package -/

/-- The name seen from a package is that of the host moved there, whether or not the package is its
own. -/
theorem classNameIn_eq (host : Host) (package : String) :
    host.classNameIn package =
      binaryName { qualifiedName := host.qualifiedName, package } := by
  rw [classNameIn]
  split
  · next heq =>
      subst heq
      rfl
  · rfl

/-- Seen from a package in front of it, a name is shown from behind the package on. -/
theorem classNameIn_of_append {host : Host} {package rest : String} (hp : package ≠ "")
    (h : host.qualifiedName = package ++ "." ++ rest) :
    host.classNameIn package = Text.replaceChar '.' '$' rest := by
  rw [classNameIn_eq, binaryName, relativeName_of_append hp h]

/-- Seen from the default package, or from a package that does not enclose it, the whole name is
shown. -/
theorem classNameIn_eq_flatName {host : Host} {package : String}
    (h : package = "" ∨ ¬ Encloses package host.qualifiedName) :
    host.classNameIn package = host.flatName := by
  rw [classNameIn_eq, binaryName, flatName]
  congr 1
  obtain hempty | hastray := h
  · exact relativeName_of_package_empty hempty
  · have hne : package ≠ "" := fun hempty => hastray (.inl hempty)
    rw [relativeName, if_neg hne]
    cases hrest : (Text.dropPrefix? package host.qualifiedName).bind (Text.dropPrefix? ".") with
    | none => rfl
    | some rest =>
      exact absurd (.inr ⟨rest, Text.dropPrefix?_bind_dot_eq_some_iff.mp hrest⟩) hastray

end Host

end Bindery

import Bindery.Output.SourceFile
import Bindery.Proofs.Text.Dotted

/-!
# Where files go

A path is joined from parts. As long as no part is empty or holds a slash, joining is writing a
slash between neighbours, and the parts are recovered by cutting at the slashes. So the relative
path of a source file tells its package and its class, and joining a relative path to a directory
loses nothing.

## Main definitions

* `IsPart`: a text that is one part of a path
* `IsPackage`: a package that is a sequence of directories

## Main results

* `joinAll_eq_join`, `joinAll_injective`: paths of parts
* `relativePath_eq_iff`: files at one relative path have one package and one class name
* `pathIn_eq_iff`: the same for the paths below a directory
-/

namespace Bindery.Output

/-- A text that is one part of a path: not empty and without a slash. -/
def IsPart (part : String) : Prop :=
  part ≠ "" ∧ '/' ∉ part.toList

/-! ## Paths of parts -/

theorem IsPart.not_isAbsolute {part : String} (h : IsPart part) : isAbsolute part = false := by
  rw [isAbsolute, beq_eq_false_iff_ne]
  exact fun hhead => h.2 (List.mem_of_head? hhead)

theorem IsPart.not_endsWithSlash {part : String} (h : IsPart part) (base : String) :
    endsWithSlash (base ++ part) = false := by
  have hne : part.toList ≠ [] := fun hnil => h.1 (String.toList_eq_nil_iff.mp hnil)
  rw [endsWithSlash, beq_eq_false_iff_ne, String.toList_append, List.getLast?_append,
    List.getLast?_eq_some_getLast hne, Option.some_or]
  exact fun hlast => h.2 (Option.some.inj hlast ▸ List.getLast_mem hne)

/-- A part goes behind a slash, unless the base is empty or ends with one. -/
theorem join_of_isPart {base part : String} (hbase : base ≠ "") (hend : endsWithSlash base = false)
    (h : IsPart part) : join base part = base ++ "/" ++ part := by
  rw [join, h.not_isAbsolute, hend]
  simp [hbase]

/-- Parts that are joined onto a part stand between slashes. -/
theorem joinAll_of_isPart {base : String} {parts : List String} (hbase : base ≠ "")
    (hend : endsWithSlash base = false) (h : ∀ s ∈ parts, IsPart s) :
    joinAll base parts = Text.join "/" (base :: parts) := by
  induction parts generalizing base with
  | nil => exact String.intercalate_singleton.symm
  | cons part parts ih =>
    have hpart := h part List.mem_cons_self
    rw [joinAll, List.foldl_cons, join_of_isPart hbase hend hpart]
    -- the longer base is again one that a part goes behind with a slash
    have hlonger : base ++ "/" ++ part ≠ "" := by simp
    have hrest := ih hlonger (hpart.not_endsWithSlash _) fun s hs =>
      h s (List.mem_cons_of_mem _ hs)
    rw [joinAll] at hrest
    rw [hrest, Text.join, Text.join, String.intercalate_cons_append, String.intercalate_cons_cons]

/-- A path of parts has a slash between neighbours. -/
theorem joinAll_eq_join {parts : List String} (h : ∀ s ∈ parts, IsPart s) :
    joinAll "" parts = Text.join "/" parts := by
  cases parts with
  | nil => exact String.intercalate_nil.symm
  | cons part parts =>
    have hpart := h part List.mem_cons_self
    have hend : endsWithSlash part = false := by
      rw [← String.empty_append (s := part)]
      exact hpart.not_endsWithSlash ""
    have hfirst : join "" part = part := by
      rw [join, hpart.not_isAbsolute]
      simp
    rw [joinAll, List.foldl_cons, hfirst]
    exact joinAll_of_isPart hpart.1 hend fun s hs => h s (List.mem_cons_of_mem _ hs)

/-- The parts of a path are recovered from it. -/
theorem joinAll_injective {parts others : List String} (h : ∀ s ∈ parts, IsPart s)
    (h' : ∀ s ∈ others, IsPart s) (hne : parts ≠ []) (hne' : others ≠ [])
    (heq : joinAll "" parts = joinAll "" others) : parts = others := by
  rw [joinAll_eq_join h, joinAll_eq_join h'] at heq
  have hparts := Text.splitOn_join '/' hne fun s hs => (h s hs).2
  have hothers := Text.splitOn_join '/' hne' fun s hs => (h' s hs).2
  have hslash : String.singleton '/' = "/" := rfl
  rw [hslash] at hparts hothers
  rw [← hparts, heq, hothers]

/-! ## Below a directory -/

/-- What is joined to a directory is recovered from the path, as long as it is not absolute. -/
theorem join_injective {base path other : String} (h : isAbsolute path = false)
    (h' : isAbsolute other = false) (heq : join base path = join base other) : path = other := by
  rw [join, join, h, h'] at heq
  by_cases hbase : base = "" ∨ endsWithSlash base
  · simpa [hbase] using heq
  · simpa [hbase] using heq

theorem isAbsolute_joinAll {parts : List String} (h : ∀ s ∈ parts, IsPart s) :
    isAbsolute (joinAll "" parts) = false := by
  rw [joinAll_eq_join h, isAbsolute, Text.toList_join, beq_eq_false_iff_ne]
  cases parts with
  | nil => simp
  | cons part parts =>
    have hpart := h part List.mem_cons_self
    have hne : part.toList ≠ [] := fun hnil => hpart.1 (String.toList_eq_nil_iff.mp hnil)
    obtain ⟨c, cs, hcs⟩ := List.exists_cons_of_ne_nil hne
    have hc : c ≠ '/' := fun hslash => hpart.2 (by rw [hcs, hslash]; exact List.mem_cons_self)
    cases parts with
    | nil => simpa [hcs] using hc
    | cons next rest => simpa [hcs, List.intercalate_cons_of_ne_nil] using hc

/-! ## Source files -/

/-- A package that is a sequence of directories: it is empty, or every segment of it is one part of
a path. -/
def IsPackage (package : String) : Prop :=
  package = "" ∨ ∀ s ∈ Text.segments package, IsPart s

namespace SourceFile

theorem directories_of_isPackage {package : String} (h : IsPackage package) :
    directories package = if package = "" then [] else Text.segments package := by
  obtain rfl | hparts := h
  · simp [directories]
  · have hne : package ≠ "" := by
      rintro rfl
      exact (hparts "" (by simp)).1 rfl
    rw [if_neg hne, directories, List.filter_eq_self]
    intro s hs
    simpa using (hparts s hs).1

/-- The directories tell the package. -/
theorem directories_injective {package other : String} (h : IsPackage package)
    (h' : IsPackage other) (heq : directories package = directories other) : package = other := by
  rw [directories_of_isPackage h, directories_of_isPackage h'] at heq
  split at heq <;> split at heq
  · rw [‹package = ""›, ‹other = ""›]
  · exact absurd heq.symm (Text.segments_ne_nil other)
  · exact absurd heq (Text.segments_ne_nil package)
  · rw [← Text.join_segments package, heq, Text.join_segments]

theorem isPart_of_mem_directories {package part : String} (h : IsPackage package)
    (hs : part ∈ directories package) : IsPart part := by
  rw [directories_of_isPackage h] at hs
  split at hs
  · simp at hs
  · exact (h.resolve_left ‹_›) part hs

/-- A file is well placed if its package is a sequence of directories and its class name holds no
slash. -/
structure WellPlaced (file : SourceFile) : Prop where
  package : IsPackage file.package
  name : '/' ∉ file.spec.name.toList

theorem WellPlaced.isPart {file : SourceFile} (h : file.WellPlaced) :
    ∀ s ∈ directories file.package ++ [file.fileName], IsPart s := by
  intro s hs
  rcases List.mem_append.mp hs with hdir | hname
  · exact isPart_of_mem_directories h.package hdir
  · rw [List.mem_singleton] at hname
    rw [hname, fileName]
    refine ⟨by simp, ?_⟩
    rw [String.toList_append, List.mem_append]
    rintro (hslash | hslash)
    · exact h.name hslash
    · exact absurd hslash (by decide)

/-- **Paths identify classes**: well-placed files have one relative path exactly if they have one
package and one class name. -/
theorem relativePath_eq_iff {file other : SourceFile} (h : file.WellPlaced)
    (h' : other.WellPlaced) :
    file.relativePath = other.relativePath ↔
      file.package = other.package ∧ file.spec.name = other.spec.name := by
  constructor
  · intro heq
    have hparts := joinAll_injective h.isPart h'.isPart (by simp) (by simp) heq
    obtain ⟨hdir, hname⟩ := List.append_inj' hparts rfl
    refine ⟨directories_injective h.package h'.package hdir, ?_⟩
    simpa [fileName] using hname
  · rintro ⟨hpackage, hname⟩
    rw [relativePath, relativePath, fileName, fileName, hpackage, hname]

/-- Below a directory, well-placed files have one path exactly if they have one relative path. -/
theorem pathIn_eq_iff {file other : SourceFile} (h : file.WellPlaced) (h' : other.WellPlaced)
    (base : String) :
    file.pathIn base = other.pathIn base ↔ file.relativePath = other.relativePath := by
  constructor
  · exact join_injective (isAbsolute_joinAll h.isPart) (isAbsolute_joinAll h'.isPart)
  · intro heq
    rw [pathIn, pathIn, heq]

end SourceFile

end Bindery.Output

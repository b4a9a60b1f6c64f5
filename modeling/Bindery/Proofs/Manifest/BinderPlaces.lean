import Bindery.Proofs.Binding.Reordering
import Bindery.Proofs.Binding.Suppression
import Bindery.Proofs.Manifest.BinderNames
import Bindery.Proofs.Output.Heading
import Bindery.Proofs.Output.Places

/-!
# Places of binders

A package is a text that a manifest may give at will, and joining an absolute path or a path with
two dots would leave the output directory. The rules of a manifest exclude both: a package encloses
the name of its host, so its segments are names. So every file of a plan goes below the output
directory, to the place that its own text declares.

## Main results

* `newline_notMem_annotation`: the annotation of a binder stays on its line
* `WellFormed.declares`: the file of a well-formed host can be read back
* `WellFormed.isComponent`: the parts of its path lead down
* `binder_below_output`: the file of a host goes below the output directory, where its text belongs
-/

namespace Bindery

open Output (SourceFile FileTree IsComponent)

/-! ## Annotations -/

namespace HostBindings

/-- The annotation for some of the three warnings stays on its line. -/
theorem newline_notMem_suppressing {tokens : List String}
    (h : ∀ t ∈ tokens, t ∈ ["ResourceType", "unchecked", "WrongConstant"]) :
    '\n' ∉ (suppressing tokens).line.toList := by
  have htokens : ∀ t ∈ ["ResourceType", "unchecked", "WrongConstant"], '\n' ∉ t.toList := by decide
  have hlist : '\n' ∉ (Text.join ", " (tokens.map fun t => "\"" ++ t ++ "\"")).toList := by
    refine Text.newline_notMem_join (by decide) fun piece hpiece => ?_
    obtain ⟨t, ht, rfl⟩ := List.mem_map.mp hpiece
    have hplain := htokens t (h t ht)
    simp [hplain]
  rw [Text.join] at hlist
  apply AnnotationSpec.newline_notMem_line
  simp only [AnnotationSpec.strings, suppressing, List.flatMap_singleton, List.forall_mem_cons]
  exact ⟨by decide, by decide, by simpa using hlist, List.forall_mem_nil _⟩

/-- The annotation of a binder stays on its line. -/
theorem newline_notMem_annotation {host : Host} {options context : Options}
    {steps : List BindingStep} {a : AnnotationSpec}
    (ha : a ∈ ((run { host, options } steps).fullBinder context).annotations) :
    '\n' ∉ a.line.toList := by
  have horder := (suppresses_tokens (warned_run host options steps)).order
  rw [fullBinder, suppression?_toList] at ha
  split at ha
  · cases ha
  · rw [List.mem_singleton] at ha
    rw [ha]
    exact newline_notMem_suppressing fun t ht => horder.mem ht

end HostBindings

/-- A name leads one directory down: it is made of other characters than slashes and dots. -/
theorem Target.IsName.isComponent {segment : String} (h : Target.IsName segment) :
    IsComponent segment := by
  refine ⟨h.isPart, ?_, ?_⟩
  · rintro rfl
    exact h.dot_notMem (by decide)
  · rintro rfl
    exact h.dot_notMem (by decide)

namespace HostDecl

variable {d : HostDecl} {options : Options} {indent : Source.Indent} {file : SourceFile}

/-! ## Files that can be read back -/

/-- The characters of a package are dots and characters of names. -/
theorem WellFormed.isIdentifierChar_of_mem_package (h : d.WellFormed) {c : Char}
    (hc : c ∈ d.host.package.toList) : c = '.' ∨ Target.isIdentifierChar c = true := by
  have hne : d.host.package ≠ "" := by
    intro hempty
    rw [hempty] at hc
    cases hc
  exact Target.isIdentifierChar_of_segments (fun _ hsegment => h.isName_of_mem_package hne hsegment)
    hc

/-- The file of a well-formed host can be read back. -/
theorem WellFormed.declares (h : d.WellFormed) (hfile : d.outcome options indent = .ok file) :
    file.Declares := by
  have hpackage : ∀ c, c ≠ '.' → Target.isIdentifierChar c = false →
      c ∉ d.host.package.toList := by
    intro c hdot hchar hmem
    rcases h.isIdentifierChar_of_mem_package hmem with heq | heq
    · exact hdot heq
    · rw [heq] at hchar
      cases hchar
  have hends : Target.isIdentifierChar '\n' = false ∧ Target.isIdentifierChar ' ' = false ∧
      Target.isIdentifierChar ';' = false :=
    ⟨Target.isIdentifierChar_eq_false (by decide) (by decide),
      Target.isIdentifierChar_eq_false (by decide) (by decide),
      Target.isIdentifierChar_eq_false (by decide) (by decide)⟩
  rw [outcome] at hfile
  cases hbinder : binderOf options d.host d.bindings with
  | error e => simp [hbinder] at hfile
  | ok spec =>
    rw [hbinder] at hfile
    obtain rfl := Except.ok.inj hfile
    have hspec := HostBindings.name_of_binderOf hbinder
    obtain ⟨steps, rfl⟩ := exists_run_of_binderOf hbinder
    refine ⟨⟨hpackage _ (by decide) hends.1, hpackage _ (by decide) hends.2.2⟩, ?_, ?_, rfl, ?_⟩
    · rw [hspec]
      exact ⟨h.isName_binderName.notMem hends.1, h.isName_binderName.notMem hends.2.1⟩
    · exact fun a ha => HostBindings.newline_notMem_annotation ha
    · simp [HostBindings.fullBinder]

/-! ## Paths that lead down -/

/-- The parts of the path of a file lead down, directory by directory. -/
theorem WellFormed.isComponent (h : d.WellFormed) (hfile : d.outcome options indent = .ok file)
    {part : String} (hpart : part ∈ SourceFile.directories file.package ++ [file.fileName]) :
    IsComponent part := by
  have hplaced := h.wellPlaced hfile
  rcases List.mem_append.mp hpart with hdirectory | hname
  · rw [(outcome_eq_ok hfile).1, SourceFile.directories_of_isPackage h.isPackage] at hdirectory
    split at hdirectory
    · cases hdirectory
    · exact (h.isName_of_mem_package ‹_› hdirectory).isComponent
  · have hlength : file.fileName.length ≥ 5 := by
      rw [SourceFile.fileName, String.length_append]
      exact Nat.le_add_left 5 _
    rw [List.mem_singleton] at hname
    refine ⟨hplaced.isPart part hpart, ?_, ?_⟩
    · rintro rfl
      rw [← hname] at hlength
      exact absurd hlength (by decide)
    · rintro rfl
      rw [← hname] at hlength
      exact absurd hlength (by decide)

end HostDecl

/-- **Files stay in the output directory, where their text belongs.** Take a host with a file, of a
manifest that passes its check. Its text declares the package of the host, or none if this is empty,
and a class; they make up the path of the file, and each part of it leads one directory down. Below
an output directory the path goes on behind that of the directory, and so does the place it leads
to: a file that is written there is written below the directory, and nowhere else. -/
theorem binder_below_output (m : Manifest) (source : String) (indent : Source.Indent)
    (h : m.check source = .ok ()) (d : HostDecl) (hd : d ∈ m.hosts) (file : SourceFile)
    (hfile : d.outcome m.options indent = .ok file) (output : String) :
    ∃ components, Source.declaredPath? file.content = some components ∧
      Source.declaredPackage? file.content =
          (if d.host.package = "" then none else some d.host.package) ∧
      Source.declaredClass? file.content = some (d.host.binaryName ++ "$$Binder") ∧
      (∀ part ∈ components, part ≠ "" ∧ '/' ∉ part.toList ∧ part ≠ "." ∧ part ≠ "..") ∧
      (Text.splitOn '/' file.relativePath.toList).map String.ofList = components ∧
      file.pathIn output =
          output ++ (if output = "" ∨ Output.endsWithSlash output then "" else "/") ++
            Text.join "/" components ∧
      FileTree.parts (file.pathIn output) = FileTree.parts output ++ components ∧
      FileTree.place (file.pathIn output) = FileTree.place output ++ components ∧
      ∀ (tree : FileTree) (bytes : ByteArray),
        ((tree.put (file.pathIn output) bytes).2 = true →
            (tree.put (file.pathIn output) bytes).1.bytesAt? (FileTree.place output ++ components) =
              some bytes) ∧
          ∀ other ≠ FileTree.place output ++ components,
            (tree.put (file.pathIn output) bytes).1.bytesAt? other = tree.bytesAt? other := by
  have hwell : d.WellFormed := (Manifest.check_eq_ok_iff.mp h).hosts d hd
  have hplaced := hwell.wellPlaced hfile
  have hdeclares := hwell.declares hfile
  obtain ⟨hpackage, hname⟩ := HostDecl.outcome_eq_ok hfile
  have hcomponents : ∀ part ∈ SourceFile.directories file.package ++ [file.fileName],
      IsComponent part := fun part hpart => hwell.isComponent hfile hpart
  have hrelative : file.relativePath =
      Text.join "/" (SourceFile.directories file.package ++ [file.fileName]) :=
    Output.joinAll_eq_join hplaced.isPart
  have habsolute : Output.isAbsolute file.relativePath = false :=
    Output.isAbsolute_joinAll hplaced.isPart
  have hparts : FileTree.parts file.relativePath =
      SourceFile.directories file.package ++ [file.fileName] := by
    rw [hrelative, FileTree.parts_of_components hcomponents]
  have hplace : FileTree.place (file.pathIn output) = FileTree.place output ++
      (SourceFile.directories file.package ++ [file.fileName]) :=
    FileTree.place_join habsolute hparts hcomponents
  refine ⟨_, SourceFile.declaredPath?_content hdeclares hplaced, ?_, ?_, ?_, ?_, ?_, ?_, hplace, ?_⟩
  · rw [SourceFile.declaredPackage?_content hdeclares, hpackage]
  · rw [SourceFile.declaredClass?_content hdeclares, hname]
  · intro part hpart
    obtain ⟨⟨hne, hslash⟩, hdot, hdots⟩ := hcomponents part hpart
    exact ⟨hne, hslash, hdot, hdots⟩
  · rw [hrelative]
    exact Text.splitOn_join '/' (by simp) fun part hpart => (hcomponents part hpart).isPart.2
  · rw [SourceFile.pathIn, Output.join, habsolute, if_neg Bool.false_ne_true, hrelative]
    split
    · rw [String.append_empty]
    · rfl
  · rw [SourceFile.pathIn, FileTree.parts_join habsolute, hparts]
  · intro tree bytes
    refine ⟨fun hdone => ?_, fun other hother => ?_⟩
    · rw [← hplace]
      exact FileTree.bytesAt?_put_of_done hdone
    · apply FileTree.bytesAt?_put_of_ne
      rw [hplace]
      exact hother

/-- A nested class with a view, in a package that is given, below a directory that is named with a
step up and a slash at the end. -/
theorem nested_binder_below_output :
    let view : FieldDecl :=
      { name := "icon", type := "android.view.View", bind := "BindView", id := some 3 }
    let nested : HostDecl :=
      { name := "a.b.Outer.Inner", kind := .activity, package := some "a.b", fields := [view] }
    let m : Manifest := { hosts := [nested] }
    let steps : List BindingStep := [.add .view view.field]
    let file : SourceFile :=
      { package := "a.b",
        spec := (HostBindings.run { host := nested.host } steps).fullBinder {} }
    m.check "" = .ok () ∧ nested.outcome m.options .standard = .ok file ∧
      Source.declaredPackage? file.content = some "a.b" ∧
      Source.declaredClass? file.content = some "Outer$Inner$$Binder" ∧
      FileTree.place (file.pathIn "../out/") =
        ["..", "out", "a", "b", "Outer$Inner$$Binder.java"] := by
  intro view nested m steps file
  have h : m.check "" = .ok () := by decide +kernel
  have hfile : nested.outcome m.options .standard = .ok file := by
    dsimp only [nested, m, file, steps, view]
    rfl
  obtain ⟨components, hpath, hpackage, hclass, -, -, -, -, hplace, -⟩ :=
    binder_below_output m "" .standard h nested (by decide) file hfile "../out/"
  have hname : nested.host.binaryName ++ "$$Binder" = "Outer$Inner$$Binder" := by decide
  rw [hname] at hclass
  refine ⟨h, hfile, hpackage, hclass, ?_⟩
  have hcomponents : components = ["a", "b", "Outer$Inner$$Binder.java"] := by
    rw [Source.declaredPath?, hclass, hpackage] at hpath
    exact (Option.some.inj hpath).symm.trans (by decide)
  rw [hplace, hcomponents]
  decide

end Bindery

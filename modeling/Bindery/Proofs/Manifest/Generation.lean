import Bindery.Proofs.Manifest.BinderPlaces
import Bindery.Proofs.Manifest.Independence
import Bindery.Proofs.Output.FileSystem

/-!
# Carrying plans out

A plan is looked at as paths and texts, and it is carried out by writing files. Both tell the same:
on any file system the files are written that the previews list, in their order and below the output
directory, up to the first one that cannot be written.

On a disk every file can be written, and the result is known: two relative paths of a plan never
lead to one place, so each path holds the text of the last preview with this path, and no other file
is touched.

## Main definitions

* `Plan.carryOutOn`: carry a plan out on a file system
* `Plan.writes`: the files that it writes, with their paths below the output directory

## Main results

* `Plan.carryOutOn_eq`: carrying a plan out writes its files one after the other
* `Manifest.WellFormed.path_eq_of_location_eq`: paths of a plan that lead to one place are the same
* `generated_as_previewed`: a disk after a plan was carried out
-/

namespace Bindery

open Output (SourceFile FileTree FileSystem Disk IsComponent join location)
open Output.FileSystem (writeAll)

namespace Plan

/-! ## On any file system -/

section

variable {σ : Type} [FileSystem σ]

/-- Carry a plan out on a file system: what it leads to, and the state afterwards. -/
def carryOutOn (p : Plan) (output : String) (s : σ) : Except WriteError Generated × σ :=
  (p.carryOut output : StateM σ (Except WriteError Generated)).run s

/-- The files that carrying a plan out writes: the previews, with their paths below `output`. -/
def writes (p : Plan) (output : String) : List (String × String) :=
  p.previews.map fun f => (join output f.1, f.2)

/-- Files are written in order, up to the first one that cannot be written. -/
theorem run_writeFiles (output : String) (files : List SourceFile) (s : σ) :
    (writeFiles output files : StateM σ (Except WriteError (List String))).run s =
      match writeAll (files.map fun file => (file.pathIn output, file.content)) s with
      | (none, after) => (.ok (files.map SourceFile.relativePath), after)
      | (some path, after) => (.error { path }, after) := by
  induction files generalizing s with
  | nil => rfl
  | cons file files ih =>
    rw [List.map_cons, writeFiles, StateT.run_bind, FileSystem.run_write, pure_bind]
    cases hwrite : FileSystem.write (file.pathIn output) file.content s with
    | mk done after =>
      cases done with
      | false =>
        rw [FileSystem.writeAll_cons_of_failed hwrite]
        rfl
      | true =>
        rw [FileSystem.writeAll_cons_of_done hwrite, if_pos rfl, StateT.run_bind, ih]
        cases writeAll (files.map fun file => (file.pathIn output, file.content)) after with
        | mk failed last => cases failed <;> rfl

/-- Carrying a plan out writes its files; when all are written, their paths are reported beside
the failures. -/
theorem carryOutOn_eq (p : Plan) (output : String) (s : σ) :
    p.carryOutOn output s =
      match writeAll (p.writes output) s with
      | (none, after) =>
        (.ok { written := p.previews.map Prod.fst, failures := p.failures }, after)
      | (some path, after) => (.error { path }, after) := by
  have hpaths : p.previews.map Prod.fst = p.files.map SourceFile.relativePath := by
    rw [previews, List.map_map]
    rfl
  have hwrites : p.writes output =
      p.files.map fun file => (file.pathIn output, file.content) := by
    rw [writes, previews, List.map_map]
    rfl
  rw [carryOutOn, carryOut, write, StateT.run_bind, run_writeFiles, ← hwrites, hpaths]
  cases writeAll (p.writes output) s with
  | mk failed after => cases failed <;> rfl

end

/-! ## On a disk -/

/-- Each preview is the file of a host. -/
theorem exists_of_mem_previews {options : Options} {indent : Source.Indent} {ds : List HostDecl}
    {f : String × String} (hf : f ∈ (ofHosts options indent ds).previews) :
    ∃ d ∈ ds, ∃ file, d.outcome options indent = .ok file ∧ f.1 = file.relativePath := by
  rw [previews, files_ofHosts] at hf
  obtain ⟨file, hfile, rfl⟩ := List.mem_map.mp hf
  obtain ⟨d, hd, hfile⟩ := List.mem_filterMap.mp hfile
  refine ⟨d, hd, file, ?_, rfl⟩
  cases houtcome : d.outcome options indent with
  | error failure => simp [houtcome, Except.toOption] at hfile
  | ok other =>
    rw [houtcome] at hfile
    exact congrArg Except.ok (Option.some.inj hfile)

end Plan

/-- The file of a well-formed host goes down from the output directory, part by part of its path. -/
theorem HostDecl.WellFormed.place_pathIn {d : HostDecl} (h : d.WellFormed) {options : Options}
    {indent : Source.Indent} {file : SourceFile} (hfile : d.outcome options indent = .ok file)
    (output : String) :
    FileTree.place (file.pathIn output) =
      FileTree.place output ++ (SourceFile.directories file.package ++ [file.fileName]) := by
  have hplaced := (h.wellPlaced hfile).isPart
  have hcomponents : ∀ part ∈ SourceFile.directories file.package ++ [file.fileName],
      IsComponent part := fun _ hpart => h.isComponent hfile hpart
  refine FileTree.place_join (Output.isAbsolute_joinAll hplaced) ?_ hcomponents
  rw [SourceFile.relativePath, Output.joinAll_eq_join hplaced,
    FileTree.parts_of_components hcomponents]

namespace Manifest.WellFormed

variable {m : Manifest} (h : m.WellFormed) (indent : Source.Indent) (output : String)

include h

/-- Previews that lead to one place are at one path. -/
theorem path_eq_of_location_eq {f g : String × String} (hf : f ∈ (m.plan indent).previews)
    (hg : g ∈ (m.plan indent).previews)
    (heq : location (join output f.1) = location (join output g.1)) : f.1 = g.1 := by
  obtain ⟨d, hd, file, hfile, hpath⟩ := Plan.exists_of_mem_previews hf
  obtain ⟨e, he, other, hother, hpath'⟩ := Plan.exists_of_mem_previews hg
  have hplace : FileTree.place (file.pathIn output) = FileTree.place (other.pathIn output) := by
    rw [SourceFile.pathIn, SourceFile.pathIn, ← hpath, ← hpath']
    exact congrArg Output.Location.place heq
  rw [(h.hosts d hd).place_pathIn hfile, (h.hosts e he).place_pathIn hother,
    List.append_cancel_left_eq] at hplace
  rw [hpath, hpath', SourceFile.relativePath, hplace, SourceFile.relativePath]

/-- After the files of a plan are written, each path holds the text of the last preview with this
path. -/
theorem lastText?_writes {before later : List (String × String)} {path content : String}
    (hpreviews : (m.plan indent).previews = before ++ (path, content) :: later)
    (hlast : path ∉ later.map Prod.fst) :
    Disk.lastText? (location (join output path)) ((m.plan indent).writes output) =
      some content := by
  have hmem : ∀ f ∈ (path, content) :: later, f ∈ (m.plan indent).previews := by
    rw [hpreviews]
    exact fun f hf => List.mem_append_right before hf
  rw [Plan.writes, hpreviews, List.map_append, List.map_cons]
  refine Disk.lastText?_of_last fun w hw heq => ?_
  obtain ⟨f, hf, rfl⟩ := List.mem_map.mp hw
  have hpath := h.path_eq_of_location_eq indent output (hmem _ List.mem_cons_self)
    (hmem f (List.mem_cons_of_mem _ hf)) heq
  exact hlast (List.mem_map.mpr ⟨f, hf, hpath.symm⟩)

end Manifest.WellFormed

/-- **Generating does what previewing shows.** Carry out the plan of a manifest that passes its
check, below any directory of any disk. The paths of the previews are reported as written, in order
and beside the same failures; only hosts with a binder have a preview. Afterwards each of the paths
holds the text of the last preview with this path, every other file is as it was, and carrying the
plan out again reports the same and changes nothing. -/
theorem generated_as_previewed (m : Manifest) (source : String) (indent : Source.Indent)
    (h : m.check source = .ok ()) (output : String) (disk : Disk) :
    let plan := m.plan indent
    let after := (plan.carryOutOn output disk).2
    plan.carryOutOn output disk =
        (.ok { written := plan.previews.map Prod.fst, failures := plan.failures }, after) ∧
      plan.previews = m.hosts.filterMap (HostDecl.preview? m.options indent) ∧
      (∀ before path content later, plan.previews = before ++ (path, content) :: later →
        path ∉ later.map Prod.fst →
          after.text? (location (join output path)) = some content) ∧
      (∀ l, (∀ f ∈ plan.previews, l ≠ location (join output f.1)) →
        after.text? l = disk.text? l) ∧
      plan.carryOutOn output after =
        (.ok { written := plan.previews.map Prod.fst, failures := plan.failures }, after) := by
  intro plan after
  have hm : m.WellFormed := Manifest.check_eq_ok_iff.mp h
  have hrun : ∀ d : Disk, plan.carryOutOn output d =
      (.ok { written := plan.previews.map Prod.fst, failures := plan.failures },
        (writeAll (plan.writes output) d).2) := by
    intro d
    rw [Plan.carryOutOn_eq, Disk.writeAll_eq]
  have hafter : after = (writeAll (plan.writes output) disk).2 := congrArg Prod.snd (hrun disk)
  have htext : ∀ l, after.text? l =
      (Disk.lastText? l (plan.writes output)).or (disk.text? l) := by
    intro l
    rw [hafter, Disk.writeAll_eq]
  refine ⟨?_, Plan.previews_ofHosts m.options indent m.hosts, ?_, ?_, ?_⟩
  · rw [hrun, hafter]
  · intro before path content later hpreviews hlast
    rw [htext, hm.lastText?_writes indent output hpreviews hlast, Option.some_or]
  · intro l hl
    have hnone : Disk.lastText? l (plan.writes output) = none :=
      Disk.lastText?_eq_none (List.forall_mem_map.mpr hl)
    rw [htext, hnone, Option.none_or]
  · rw [hrun, hafter, Disk.writeAll_twice]

/-- Two hosts that share a path, with a failing host between them: the file of the last one stays,
and a file beside it is kept. -/
theorem shared_path_generated :
    let view : FieldDecl :=
      { name := "icon", type := "android.view.View", bind := "BindView", id := some 3 }
    let first : HostDecl := { name := "a.b.B$C" }
    let failing : HostDecl := { name := "a.b.D", fields := [{ view with id := none }] }
    let last : HostDecl := { name := "a.b.B.C", kind := .activity, fields := [view] }
    let m : Manifest := { hosts := [first, failing, last] }
    let file : SourceFile :=
      { package := "a.b",
        spec := (HostBindings.run { host := last.host } [.add .view view.field]).fullBinder {} }
    let after := ((m.plan .standard).carryOutOn "out" { text? := fun _ => some "before" : Disk }).2
    m.check "" = .ok () ∧
      after.text? (location "out/a/b/B$C$$Binder.java") = some file.content ∧
      after.text? (location "out/a/b/D$$Binder.java") = some "before" := by
  intro view first failing last m file after
  have h : m.check "" = .ok () := by decide +kernel
  have hpreviews : (m.plan .standard).previews =
      [("a/b/B$C$$Binder.java", SourceFile.content
          { package := "a.b",
            spec := (HostBindings.run { host := first.host } []).fullBinder {} })] ++
        [("a/b/B$C$$Binder.java", file.content)] := by
    dsimp only [m, first, failing, last, file, view]
    rfl
  have hpath : join "out" "a/b/B$C$$Binder.java" = "out/a/b/B$C$$Binder.java" := by decide
  have hresult := generated_as_previewed m "" .standard h "out" { text? := fun _ => some "before" }
  dsimp only at hresult
  obtain ⟨-, -, hlast, hother, -⟩ := hresult
  have hkept := hlast _ _ _ [] hpreviews List.not_mem_nil
  rw [hpath] at hkept
  refine ⟨h, hkept, hother _ ?_⟩
  rw [hpreviews, List.singleton_append, List.forall_mem_cons, List.forall_mem_singleton, hpath]
  exact ⟨by decide, by decide⟩

end Bindery

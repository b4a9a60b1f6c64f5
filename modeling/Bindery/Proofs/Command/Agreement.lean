import Bindery.Command.Run
import Bindery.Proofs.Manifest.Generation

/-!
# The commands agree

Checking a manifest, printing its binders and writing them all start from the same file and the same
plan. What each of them does on a file system is told by two cases: the file holds no manifest, and
the command stops; or it holds one, and the command goes on to the plan. So the three succeed
together, as long as files can be written, and what is printed is what is written.

## Main definitions

* `Invocation.runIn`: a command on a file system
* `Opens`: the manifest that a command finds
* `Manifest.AllBound`: every host has a binder

## Main results

* `Opens.runIn_check`, `Opens.runIn_print`, `Opens.runIn_write`: what the commands do with a
  manifest
* `runIn_check_of_not_opens`, `runIn_generate_of_not_opens`: what they do without one
* `commands_agree`: exit codes, output and effects of the three side by side
-/

namespace Bindery

open Output (FileSystem join)
open Output.FileSystem (writeAll)

/-- Every host of a manifest has a binder. -/
def Manifest.AllBound (m : Manifest) : Prop :=
  ∀ d ∈ m.hosts, ∃ spec, binderOf m.options d.host d.bindings = .ok spec

/-- Every host has a binder exactly if the plan has no failures. -/
theorem Manifest.allBound_iff {m : Manifest} {indent : Source.Indent} :
    m.AllBound ↔ (m.plan indent).failures = [] := by
  have hfailures : (m.plan indent).failures = m.hosts.filterMap (HostDecl.failure? m.options) :=
    Plan.failures_ofHosts m.options indent m.hosts
  rw [hfailures, List.filterMap_eq_nil_iff, AllBound]
  refine forall₂_congr fun d _ => ?_
  rw [HostDecl.failure?]
  cases binderOf m.options d.host d.bindings <;> simp

namespace Command

variable {σ : Type} [FileSystem σ]

/-- What a command prints and leaves behind on a file system. -/
def Invocation.runIn (i : Invocation) (s : σ) : Outcome × σ :=
  (i.run : StateM σ Outcome).run s

/-- A command line on a file tree does what its command does on the tree as a file system. -/
theorem runOn_of_parse {words : List String} {i : Invocation}
    (h : Invocation.parse? words = some i) (tree : Output.FileTree) :
    runOn tree words = i.runIn tree := by
  rw [runOn, run, h]
  rfl

/-- The file at `config` holds a manifest, and this is accepted. -/
def Opens (s : σ) (config : String) (m : Manifest) : Prop :=
  ∃ text, FileSystem.read? config s = some text ∧ Manifest.read text config = .ok m

variable {s : σ} {config : String} {m : Manifest}

/-! ## Opening a manifest -/

theorem Opens.run_openManifest (h : Opens s config m) :
    ∃ text, (openManifest config : StateM σ (Except ManifestError (String × Manifest))).run s =
      pure (.ok (text, m), s) := by
  obtain ⟨text, hread, hm⟩ := h
  refine ⟨text, ?_⟩
  rw [openManifest, StateT.run_bind, FileSystem.run_read?, hread, pure_bind]
  dsimp only
  rw [hm]
  rfl

theorem run_openManifest_of_not_opens (h : ¬ ∃ m, Opens s config m) :
    ∃ error, (openManifest config : StateM σ (Except ManifestError (String × Manifest))).run s =
      pure (.error error, s) := by
  rw [openManifest, StateT.run_bind, FileSystem.run_read?, pure_bind]
  cases hread : FileSystem.read? config s with
  | none => exact ⟨_, rfl⟩
  | some text =>
    dsimp only
    cases hm : Manifest.read text config with
    | error error => exact ⟨error, rfl⟩
    | ok m => exact absurd ⟨m, text, hread, hm⟩ h

/-! ## Commands without a manifest -/

/-- Without a manifest a check stops. -/
theorem runIn_check_of_not_opens (h : ¬ ∃ m, Opens s config m) :
    (Invocation.check config).runIn s = (stopped, s) := by
  obtain ⟨error, hopen⟩ := run_openManifest_of_not_opens h
  rw [Invocation.runIn, Invocation.run, check, StateT.run_bind, hopen]
  rfl

/-- Without a manifest no binder is printed or written. -/
theorem runIn_generate_of_not_opens (h : ¬ ∃ m, Opens s config m) (output : String)
    (dryRun : Bool) : (Invocation.generate config output dryRun).runIn s = (stopped, s) := by
  obtain ⟨error, hopen⟩ := run_openManifest_of_not_opens h
  rw [Invocation.runIn, Invocation.run, generate, StateT.run_bind, hopen]
  rfl

/-! ## Commands with a manifest -/

/-- A check succeeds if there are no failures. -/
theorem Opens.runIn_check (h : Opens s config m) :
    (((Invocation.check config).runIn s).1.exitCode =
        if m.plan.failures.isEmpty then 0 else 1) ∧
      ((Invocation.check config).runIn s).2 = s := by
  obtain ⟨text, hopen⟩ := h.run_openManifest
  rw [Invocation.runIn, Invocation.run, check, StateT.run_bind, hopen, pure_bind]
  dsimp only
  split <;> exact ⟨rfl, rfl⟩

/-- Printing leaves the file system as it is. -/
theorem Opens.runIn_print (h : Opens s config m) (output : String) :
    (Invocation.generate config output true).runIn s =
      (finished (printed m.plan) m.plan.failures, s) := by
  obtain ⟨text, hopen⟩ := h.run_openManifest
  rw [Invocation.runIn, Invocation.run, generate, StateT.run_bind, hopen, pure_bind]
  rfl

/-- Writing stops at the first file that cannot be written, and else tells which were. -/
theorem Opens.runIn_write (h : Opens s config m) (output : String) :
    (Invocation.generate config output false).runIn s =
      match writeAll (m.plan.writes output) s with
      | (none, after) =>
        (finished (writtenText output (m.plan.previews.map Prod.fst)) m.plan.failures, after)
      | (some _, after) => (stopped, after) := by
  obtain ⟨text, hopen⟩ := h.run_openManifest
  have hcarry := m.plan.carryOutOn_eq output s
  rw [Plan.carryOutOn] at hcarry
  rw [Invocation.runIn, Invocation.run, generate, StateT.run_bind, hopen, pure_bind]
  dsimp only
  rw [if_neg Bool.false_ne_true, StateT.run_bind, hcarry]
  cases writeAll (m.plan.writes output) s with
  | mk failed after => cases failed <;> rfl

/-! ## Exit codes -/

theorem Opens.unique {other : Manifest} (h : Opens s config m) (h' : Opens s config other) :
    other = m := by
  obtain ⟨text, hread, hm⟩ := h
  obtain ⟨text', hread', hother⟩ := h'
  rw [hread] at hread'
  obtain rfl := Option.some.inj hread'
  rw [hm] at hother
  exact (Except.ok.inj hother).symm

/-- Some manifest that is found has a property exactly if the one that is found has it. -/
theorem Opens.exists_iff (h : Opens s config m) {P : Manifest → Prop} :
    (∃ other, Opens s config other ∧ P other) ↔ P m := by
  constructor
  · rintro ⟨other, hother, hp⟩
    exact h.unique hother ▸ hp
  · exact fun hp => ⟨m, h, hp⟩

/-- A run without a manifest ends with the exit code 1, and no manifest has a property there. -/
theorem exitCode_stopped_iff (h : ¬ ∃ m, Opens s config m) (P : Manifest → Prop) :
    stopped.exitCode = 0 ↔ ∃ m, Opens s config m ∧ P m := by
  refine iff_of_false Nat.one_ne_zero ?_
  rintro ⟨m, hm, -⟩
  exact h ⟨m, hm⟩

theorem exitCode_finished_iff (output : String) :
    (finished output m.plan.failures).exitCode = 0 ↔ m.AllBound := by
  rw [Manifest.allBound_iff, ← List.isEmpty_iff, finished]
  cases m.plan.failures.isEmpty <;> simp

theorem exitCode_finished_le (output : String) (failures : List HostFailure) :
    (finished output failures).exitCode ≤ 1 := by
  rw [finished]
  cases failures.isEmpty <;> simp

/-- A check succeeds exactly if all hosts have binders. -/
theorem exitCode_check_iff :
    ((Invocation.check config).runIn s).1.exitCode = 0 ↔
      ∃ m, Opens s config m ∧ m.AllBound := by
  by_cases hopens : ∃ m, Opens s config m
  · obtain ⟨m, h⟩ := hopens
    rw [h.exists_iff, h.runIn_check.1, Manifest.allBound_iff, ← List.isEmpty_iff]
    cases m.plan.failures.isEmpty <;> simp
  · rw [runIn_check_of_not_opens hopens]
    exact exitCode_stopped_iff hopens _

/-- Printing succeeds exactly if all hosts have binders. -/
theorem exitCode_print_iff (output : String) :
    ((Invocation.generate config output true).runIn s).1.exitCode = 0 ↔
      ∃ m, Opens s config m ∧ m.AllBound := by
  by_cases hopens : ∃ m, Opens s config m
  · obtain ⟨m, h⟩ := hopens
    rw [h.exists_iff, h.runIn_print]
    exact exitCode_finished_iff _
  · rw [runIn_generate_of_not_opens hopens]
    exact exitCode_stopped_iff hopens _

/-- Writing succeeds exactly if all hosts have binders and all of these can be written. -/
theorem exitCode_write_iff (output : String) :
    ((Invocation.generate config output false).runIn s).1.exitCode = 0 ↔
      ∃ m, Opens s config m ∧ m.AllBound ∧ (writeAll (m.plan.writes output) s).1 = none := by
  by_cases hopens : ∃ m, Opens s config m
  · obtain ⟨m, h⟩ := hopens
    rw [h.exists_iff, h.runIn_write]
    cases writeAll (m.plan.writes output) s with
    | mk failed after =>
      cases failed with
      | none => exact (exitCode_finished_iff _).trans (and_iff_left rfl).symm
      | some path => exact iff_of_false Nat.one_ne_zero fun hwritten => (nomatch hwritten.2)
  · rw [runIn_generate_of_not_opens hopens]
    exact exitCode_stopped_iff hopens _

theorem exitCode_check_le : ((Invocation.check config).runIn s).1.exitCode ≤ 1 := by
  by_cases hopens : ∃ m, Opens s config m
  · obtain ⟨m, h⟩ := hopens
    rw [h.runIn_check.1]
    cases m.plan.failures.isEmpty <;> simp
  · rw [runIn_check_of_not_opens hopens]
    exact Nat.le_refl 1

theorem exitCode_generate_le (output : String) (dryRun : Bool) :
    ((Invocation.generate config output dryRun).runIn s).1.exitCode ≤ 1 := by
  by_cases hopens : ∃ m, Opens s config m
  · obtain ⟨m, h⟩ := hopens
    cases dryRun with
    | true =>
      rw [h.runIn_print]
      exact exitCode_finished_le _ _
    | false =>
      rw [h.runIn_write]
      cases writeAll (m.plan.writes output) s with
      | mk failed after =>
        cases failed with
        | none => exact exitCode_finished_le _ _
        | some path => exact Nat.le_refl 1
  · rw [runIn_generate_of_not_opens hopens]
    exact Nat.le_refl 1

/-! ## Effects -/

/-- A check leaves the file system as it is. -/
theorem state_check : ((Invocation.check config).runIn s).2 = s := by
  by_cases hopens : ∃ m, Opens s config m
  · obtain ⟨m, h⟩ := hopens
    exact h.runIn_check.2
  · rw [runIn_check_of_not_opens hopens]

/-- Printing leaves the file system as it is. -/
theorem state_print (output : String) :
    ((Invocation.generate config output true).runIn s).2 = s := by
  by_cases hopens : ∃ m, Opens s config m
  · obtain ⟨m, h⟩ := hopens
    rw [h.runIn_print]
  · rw [runIn_generate_of_not_opens hopens]

/-- Writing leads to the state after the writes of the plan. -/
theorem Opens.state_write (h : Opens s config m) (output : String) :
    ((Invocation.generate config output false).runIn s).2 =
      (writeAll (m.plan.writes output) s).2 := by
  rw [h.runIn_write]
  cases writeAll (m.plan.writes output) s with
  | mk failed after => cases failed <;> rfl

/-- **The commands agree.** Checking and printing succeed exactly if the file holds a manifest whose
hosts all have binders; writing succeeds exactly if every file can be written besides. Each of the
three has the exit code 1 otherwise. Checking and printing leave the file system as it is, and so
does writing if there is no manifest. If there is one, the previews of its hosts with a binder are
what is printed, path and text, and what is written below the output directory, in the same order,
whether or not other hosts have failed. -/
theorem commands_agree {σ : Type} [FileSystem σ] (s : σ) (config output : String) :
    let checked := (Invocation.check config).runIn s
    let shown := (Invocation.generate config output true).runIn s
    let written := (Invocation.generate config output false).runIn s
    (checked.1.exitCode = 0 ↔ ∃ m, Opens s config m ∧ m.AllBound) ∧
      (shown.1.exitCode = 0 ↔ ∃ m, Opens s config m ∧ m.AllBound) ∧
      (written.1.exitCode = 0 ↔ ∃ m, Opens s config m ∧ m.AllBound ∧
        (writeAll (m.plan.writes output) s).1 = none) ∧
      (∀ outcome ∈ [checked.1, shown.1, written.1],
        outcome.exitCode = 0 ∨ outcome.exitCode = 1) ∧
      checked.2 = s ∧ shown.2 = s ∧ ((¬ ∃ m, Opens s config m) → written.2 = s) ∧
      ∀ m, Opens s config m →
        let files := m.hosts.filterMap (HostDecl.preview? m.options .standard)
        shown.1.output =
            String.join (files.map fun f => "// " ++ f.1 ++ "\n" ++ f.2 ++ "\n") ∧
          m.plan.writes output = files.map (fun f => (join output f.1, f.2)) ∧
          written.2 = (writeAll (m.plan.writes output) s).2 := by
  intro checked shown written
  refine ⟨exitCode_check_iff, exitCode_print_iff output, exitCode_write_iff output, ?_,
    state_check, state_print output, ?_, ?_⟩
  · intro outcome houtcome
    have hle : outcome.exitCode ≤ 1 := by
      simp only [List.mem_cons, List.not_mem_nil, or_false] at houtcome
      rcases houtcome with rfl | rfl | rfl
      · exact exitCode_check_le
      · exact exitCode_generate_le output true
      · exact exitCode_generate_le output false
    omega
  · intro hopens
    exact congrArg Prod.snd (runIn_generate_of_not_opens hopens output false)
  · intro m h files
    have hfiles : m.plan.previews = files := Plan.previews_ofHosts m.options .standard m.hosts
    refine ⟨?_, ?_, h.state_write output⟩
    · have hshown : shown = (finished (printed m.plan) m.plan.failures, s) := h.runIn_print output
      rw [hshown, ← hfiles]
      rfl
    · rw [Plan.writes, hfiles]

/-- A manifest of one host is found on a disk that holds its text. -/
example :
    Opens ({ text? := fun _ => some "[[host]]\nname = \"a.B\"\n" } : Output.Disk) "shiv.toml"
      { hosts := [{ name := "a.B" }] } :=
  ⟨_, rfl, by decide +kernel⟩

end Command

end Bindery

import Mathlib.Logic.Function.Basic
import Bindery.Proofs.Output.Places

/-!
# File systems

A file system as it is seen by a program: states, what a text file holds in a state, and what
writing a file leads to. A program runs on a file system by passing its state on, and writing files
one after the other stops at the first file that cannot be written.

A disk is a file system in which every file can be written and the directories on the way are made.
It holds texts by the places of files, and two paths that lead to one place are paths of one file.

## Main definitions

* `FileSystem`: what a program sees of its files
* `FileSystem.writeAll`: write files one after the other
* `Disk`, `Disk.fileSystem`: texts by place, and their file system
* `Disk.lastText?`: what the last of several writes puts at a place

## Main results

* `Disk.writeAll_eq`: what is on a disk after writes
* `Disk.writeAll_twice`: writing the same files again changes nothing
-/

namespace Bindery.Output

/-- What a program sees of its files, in the states `σ`. -/
class FileSystem (σ : Type) where
  /-- The text in a file; none if there is no such file or it holds no text. -/
  read? : (path : String) → σ → Option String
  /-- Write a text into a file: whether that was possible, and the state afterwards. -/
  write : (path content : String) → σ → Bool × σ

namespace FileSystem

variable {σ : Type} [FileSystem σ]

/-- A program that passes the state on has access to the files. -/
instance : Files (StateM σ) where
  read? path := return read? path (← get)
  write path content := modifyGet (write path content)

theorem run_read? (path : String) (s : σ) :
    (Files.read? path : StateM σ (Option String)).run s = pure (read? path s, s) := rfl

theorem run_write (path content : String) (s : σ) :
    (Files.write path content : StateM σ Bool).run s = pure (write path content s) := rfl

/-- Write files one after the other up to the first one that cannot be written: the path of this
one, if there is one, and the state afterwards. -/
def writeAll : List (String × String) → σ → Option String × σ
  | [], s => (none, s)
  | (path, content) :: writes, s =>
    match write path content s with
    | (true, s) => writeAll writes s
    | (false, s) => (some path, s)

theorem writeAll_cons_of_done {path content : String} {s after : σ}
    (h : write path content s = (true, after)) (writes : List (String × String)) :
    writeAll ((path, content) :: writes) s = writeAll writes after := by
  rw [writeAll, h]

theorem writeAll_cons_of_failed {path content : String} {s after : σ}
    (h : write path content s = (false, after)) (writes : List (String × String)) :
    writeAll ((path, content) :: writes) s = (some path, after) := by
  rw [writeAll, h]

end FileSystem

open FileSystem (writeAll)

/-- A tree of files is a file system, the one that commands run on. -/
instance FileTree.fileSystem : FileSystem FileTree where
  read? path tree := tree.read? path
  write path content tree :=
    let (tree, done) := tree.put path content.toUTF8
    (done, tree)

/-! ## Disks -/

/-- Where a file is: on a path from the root or from the current directory, down to a place. -/
structure Location where
  /-- Whether the path starts at the root. -/
  absolute : Bool
  /-- The place that it leads to. -/
  place : List String
  deriving DecidableEq

/-- Where the file at a path is. -/
def location (path : String) : Location :=
  { absolute := isAbsolute path, place := FileTree.place path }

/-- The texts of files, by where the files are. -/
structure Disk where
  /-- The text of a file; none if there is no file. -/
  text? : Location → Option String

namespace Disk

@[ext]
theorem ext {disk other : Disk} (h : ∀ l, disk.text? l = other.text? l) : disk = other := by
  cases disk
  cases other
  exact congrArg Disk.mk (funext h)

/-- The disk with a text in the file at a path. -/
def put (disk : Disk) (path content : String) : Disk where
  text? := Function.update disk.text? (location path) (some content)

/-- A disk is a file system, and every file can be written. -/
instance fileSystem : FileSystem Disk where
  read? path disk := disk.text? (location path)
  write path content disk := (true, disk.put path content)

/-- The text that the last of several writes to one place puts there. -/
def lastText? (l : Location) : List (String × String) → Option String
  | [] => none
  | (path, content) :: writes =>
    (lastText? l writes).or (if l = location path then some content else none)

theorem text?_put (disk : Disk) (path content : String) (l : Location) :
    (disk.put path content).text? l =
      (if l = location path then some content else none).or (disk.text? l) := by
  change Function.update disk.text? (location path) (some content) l = _
  rw [Function.update_apply]
  split <;> rfl

/-- After writes a disk holds what the last write to each place put there, and what it held before
where none went. -/
theorem writeAll_eq (writes : List (String × String)) (disk : Disk) :
    writeAll writes disk =
      (none, { text? := fun l => (lastText? l writes).or (disk.text? l) }) := by
  induction writes generalizing disk with
  | nil => rfl
  | cons w writes ih =>
    obtain ⟨path, content⟩ := w
    have hput : FileSystem.write path content disk = (true, disk.put path content) := rfl
    rw [FileSystem.writeAll_cons_of_done hput, ih]
    refine congrArg (Prod.mk none) (Disk.ext fun l => ?_)
    dsimp only
    rw [text?_put, lastText?, Option.or_assoc]

/-- Writing the same files again changes nothing. -/
theorem writeAll_twice (writes : List (String × String)) (disk : Disk) :
    writeAll writes (writeAll writes disk).2 = writeAll writes disk := by
  rw [writeAll_eq, writeAll_eq]
  refine congrArg (Prod.mk none) (Disk.ext fun l => ?_)
  dsimp only
  rw [← Option.or_assoc, Option.or_self]

theorem lastText?_eq_none {l : Location} {writes : List (String × String)}
    (h : ∀ w ∈ writes, l ≠ location w.1) : lastText? l writes = none := by
  induction writes with
  | nil => rfl
  | cons w writes ih =>
    rw [List.forall_mem_cons] at h
    rw [lastText?, ih h.2, if_neg h.1, Option.none_or]

/-- What is written to a place behind other writes, and before writes to other places, stays. -/
theorem lastText?_of_last {path content : String} {before later : List (String × String)}
    (hlater : ∀ w ∈ later, location path ≠ location w.1) :
    lastText? (location path) (before ++ (path, content) :: later) = some content := by
  induction before with
  | nil => rw [List.nil_append, lastText?, lastText?_eq_none hlater, if_pos rfl, Option.none_or]
  | cons w before ih => rw [List.cons_append, lastText?, ih, Option.some_or]

end Disk

end Bindery.Output

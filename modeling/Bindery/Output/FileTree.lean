import Bindery.Output.Files
import Bindery.Output.SourceFile
import Bindery.Text.Basic

/-!
# File trees

A file system as a value: files and directories below a root. Looking a path up walks through the
directories on it; writing a file first makes the directories that are missing. Two dots lead to the
directory above, and above the root there are further directories of which nothing is known.

## Main definitions

* `FileTree.read?`, `FileTree.holds`: look a path up
* `FileTree.makeDirectories`, `FileTree.put`: add directories and files
* `FileTree.writeFile`: write a file by its overwrite rule
* `FileTree.files`: all files
-/

namespace Bindery.Output

/-- What is found in a directory. -/
inductive Entry where
  | directory
  | file (bytes : ByteArray)
  deriving Inhabited

/-- Whether an entry is a directory. -/
def Entry.isDirectory : Entry → Bool
  | directory => true
  | file _ => false

/-- Files and directories by the names on the way to them; the root itself has no entry. -/
structure FileTree where
  /-- The entries, oldest first. -/
  entries : List (List String × Entry) := []
  deriving Inhabited

/-- What became of a file to write. -/
inductive WriteResult where
  | written
  | skipped
  | failed
  deriving DecidableEq, Repr, Inhabited

namespace FileTree

/-! ## Names and paths -/

/-- The most bytes that a name may have. -/
def maxNameLength : Nat := 255

/-- Whether a file or directory can have a name. -/
def isName (name : String) : Bool :=
  name.utf8ByteSize ≤ maxNameLength

/-- The most bytes that a path may have. -/
def maxPathLength : Nat := 4095

/-- Whether a text can be looked up as a path at all. -/
def isPath (path : String) : Bool :=
  path.utf8ByteSize ≤ maxPathLength && !path.toList.contains '\x00'

/-- The parts of a path that lead somewhere: a dot, or nothing between separators, does not. -/
def parts (path : String) : List String :=
  ((Text.splitOn '/' path.toList).map String.ofList).filter fun s => s != "" && s != "."

/-- Whether a path can only be that of a directory: its last part leads nowhere. -/
def namesDirectory (path : String) : Bool :=
  match ((Text.splitOn '/' path.toList).map String.ofList).getLast? with
  | some last => last == "" || last == "."
  | none => true

/-- Whether a place is the root or a directory above it. -/
def isRootOrAbove (place : List String) : Bool :=
  place.all fun part => part == ".."

/-! ## Looking up -/

/-- The entry at a place. -/
def entry? (tree : FileTree) (place : List String) : Option Entry :=
  if isRootOrAbove place then some .directory else tree.entries.lookup place

/-- Whether a place is a directory. -/
def isDirectory (tree : FileTree) (place : List String) : Bool :=
  (tree.entry? place).any Entry.isDirectory

/-- The tree with an entry at a place. -/
def set (tree : FileTree) (place : List String) (e : Entry) : FileTree :=
  if (tree.entries.lookup place).isSome then
    { entries := tree.entries.map fun x => if x.1 == place then (place, e) else x }
  else { entries := tree.entries ++ [(place, e)] }

/-- The place that a part leads to from a directory. -/
def step (place : List String) (part : String) : List String :=
  if part == ".." && !isRootOrAbove place then place.dropLast else place ++ [part]

/-- The place at the end of a path that starts at a directory; every part leads out of a directory.
-/
def walk? (tree : FileTree) : (place : List String) → (parts : List String) → Option (List String)
  | place, [] => some place
  | place, part :: rest =>
    if tree.isDirectory place then tree.walk? (step place part) rest else none

/-- The entry at the end of a path. -/
def find? (tree : FileTree) (path : String) : Option Entry :=
  if isPath path then do
    let e ← (tree.walk? [] (parts path)).bind tree.entry?
    if namesDirectory path && !e.isDirectory then none else some e
  else none

/-- Whether there is anything at the end of a path. -/
def holds (tree : FileTree) (path : String) : Bool :=
  (tree.find? path).isSome

/-- The text in the file at the end of a path. -/
def read? (tree : FileTree) (path : String) : Option String :=
  match tree.find? path with
  | some (.file bytes) => String.fromUTF8? bytes
  | _ => none

/-! ## Writing -/

/-- Make the directories along a path that are missing. The tree, and the place of the last one
unless something is in the way. -/
def makeAlong (tree : FileTree) :
    (place : List String) → (parts : List String) → FileTree × Option (List String)
  | place, [] => (tree, some place)
  | place, part :: rest =>
    let next := step place part
    match tree.entry? next with
    | some .directory => tree.makeAlong next rest
    | some (.file _) => (tree, none)
    | none => if isName part then (tree.set next .directory).makeAlong next rest else (tree, none)

/-- Make the directories that are missing on the way through parts. The tree, and the place of the
last one unless something is in the way. Nothing is made if the parts make up no path. -/
def makeParts (tree : FileTree) (parts : List String) : FileTree × Option (List String) :=
  if isPath (Text.join "/" parts) then tree.makeAlong [] parts else (tree, none)

/-- Make the directories of a path that are missing. -/
def makeDirectories (tree : FileTree) (path : String) : FileTree :=
  (tree.makeParts (parts path)).1

/-- Whether a file can be written at the end of a path with a given last part. -/
def namesFile (path name : String) : Bool :=
  isPath path && !namesDirectory path && name != ".." && isName name

/-- Write a file and make the directories it is in. The tree, and whether the file was written; the
directories stay in any case. -/
def put (tree : FileTree) (path : String) (bytes : ByteArray) : FileTree × Bool :=
  let (tree, place?) := tree.makeParts (parts path).dropLast
  match place?, (parts path).getLast? with
  | some place, some name =>
    let target := place ++ [name]
    if !namesFile path name || tree.isDirectory target then (tree, false)
    else (tree.set target (.file bytes), true)
  | _, _ => (tree, false)

/-- Write a file by a rule for what is already there. -/
def writeFile (tree : FileTree) (path content : String) (rule : Overwrite) :
    FileTree × WriteResult :=
  if rule = .ifMissing ∧ tree.holds path then (tree, .skipped)
  else
    let (tree, done) := tree.put path content.toUTF8
    (tree, if done then .written else .failed)

/-- The files below the root with their paths, in ascending order of the paths. -/
def files (tree : FileTree) : List (String × ByteArray) :=
  let found := tree.entries.filterMap fun x =>
    match x.2 with
    | .file bytes => if x.1.head? == some ".." then none else some (Text.join "/" x.1, bytes)
    | .directory => none
  found.mergeSort fun a b => a.1 ≤ b.1

/-- A tree that changes with each write gives access to its files. -/
instance : Files (StateM FileTree) where
  read? path := return (← get).read? path
  write path content := modifyGet fun tree =>
    let (tree, done) := tree.put path content.toUTF8
    (done, tree)

end FileTree

end Bindery.Output

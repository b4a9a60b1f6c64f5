import Bindery.Output.FileTree
import Bindery.Proofs.Output.Location

/-!
# Places of paths

A path leads to a place below the root. What is joined to a directory leads further down from the
place of the directory, as long as its parts are components: parts that are no dot and no two dots.
Writing a file puts its bytes at the place of its path, and no other place gets bytes or loses them.

## Main definitions

* `IsComponent`: a part of a path that leads one directory down
* `FileTree.place`: where a path leads
* `FileTree.bytesAt?`: the file at a place

## Main results

* `parts_join`: the parts of a path below a directory
* `place_join`: the place of a path of components below a directory
* `bytesAt?_put_of_done`, `bytesAt?_put_of_ne`: the files of a tree after a file is written
-/

namespace Bindery.Output

/-- A part of a path that leads one directory down. -/
structure IsComponent (part : String) : Prop where
  isPart : IsPart part
  ne_dot : part ≠ "."
  ne_dots : part ≠ ".."

namespace FileTree

/-! ## The parts of a path -/

theorem parts_empty : parts "" = [] := by decide

theorem parts_append_slash (front rest : String) :
    parts (front ++ "/" ++ rest) = parts front ++ parts rest := by
  have hpieces : Text.splitOn '/' (front ++ "/" ++ rest).toList =
      Text.splitOn '/' front.toList ++ Text.splitOn '/' rest.toList := by
    rw [String.toList_append, String.toList_append, List.append_assoc]
    exact Text.splitOn_append_cons '/' front.toList rest.toList
  rw [parts, hpieces, List.map_append, List.filter_append, parts, parts]

/-- A path of components has these as its parts. -/
theorem parts_of_components {components : List String} (h : ∀ s ∈ components, IsComponent s) :
    parts (Text.join "/" components) = components := by
  by_cases hne : components = []
  · subst hne
    exact parts_empty
  · have hpieces := Text.splitOn_join '/' hne fun s hs => (h s hs).isPart.2
    have hslash : String.singleton '/' = "/" := rfl
    rw [hslash] at hpieces
    rw [parts, hpieces, List.filter_eq_self]
    intro s hs
    simp [(h s hs).isPart.1, (h s hs).ne_dot]

/-- What is written behind a slash adds its parts. -/
theorem parts_append_of_endsWithSlash {base : String} (h : endsWithSlash base) (rest : String) :
    parts (base ++ rest) = parts base ++ parts rest := by
  rw [endsWithSlash, beq_iff_eq, List.getLast?_eq_some_iff] at h
  obtain ⟨front, hfront⟩ := h
  have hbase : base = String.ofList front ++ "/" ++ "" := by
    apply String.toList_inj.mp
    rw [hfront]
    simp
  rw [hbase, parts_append_slash, parts_empty, List.append_nil, String.append_empty,
    parts_append_slash]

/-- A path that is joined to a directory adds its parts. -/
theorem parts_join {base path : String} (h : isAbsolute path = false) :
    parts (join base path) = parts base ++ parts path := by
  rw [join, h, if_neg Bool.false_ne_true]
  split
  · next hbase =>
      rcases hbase with rfl | hslash
      · rw [String.empty_append, parts_empty, List.nil_append]
      · exact parts_append_of_endsWithSlash hslash path
  · exact parts_append_slash base path

/-! ## The place of a path -/

/-- Where a path leads, from the root on. -/
def place (path : String) : List String :=
  (parts path).foldl step []

theorem step_of_ne {part : String} (h : part ≠ "..") (place : List String) :
    step place part = place ++ [part] := by
  simp [step, h]

/-- Components lead down one by one. -/
theorem foldl_step_of_components {components : List String}
    (h : ∀ s ∈ components, IsComponent s) (place : List String) :
    components.foldl step place = place ++ components := by
  induction components generalizing place with
  | nil => rw [List.foldl_nil, List.append_nil]
  | cons s ss ih =>
    rw [List.foldl_cons, step_of_ne (h s List.mem_cons_self).ne_dots,
      ih fun t ht => h t (List.mem_cons_of_mem _ ht), List.append_assoc, List.singleton_append]

/-- A path of components below a directory leads to a place below that of the directory. -/
theorem place_join {base path : String} {components : List String}
    (habsolute : isAbsolute path = false) (hparts : parts path = components)
    (h : ∀ s ∈ components, IsComponent s) : place (join base path) = place base ++ components := by
  rw [place, parts_join habsolute, List.foldl_append, hparts, foldl_step_of_components h, place]

/-! ## Entries -/

/-- The file at a place. -/
def bytesAt? (tree : FileTree) (place : List String) : Option ByteArray :=
  match tree.entry? place with
  | some (.file bytes) => some bytes
  | _ => none

variable {tree : FileTree} {here other : List String} {bytes : ByteArray}

theorem lookup_map_set {entries : List (List String × Entry)} {e : Entry} :
    (entries.map fun x => if x.1 == here then (here, e) else x).lookup other =
      if other = here then (entries.lookup here).map fun _ => e else entries.lookup other := by
  induction entries with
  | nil => simp
  | cons x xs ih =>
    obtain ⟨place, entry⟩ := x
    by_cases hother : other = place
    · subst hother
      by_cases hhere : other = here
      · simp [hhere]
      · simp [hhere]
    · have hne : (other == place) = false := beq_false_of_ne hother
      by_cases hplace : place = here
      · subst hplace
        simp only [List.map_cons, beq_self_eq_true, if_true, List.lookup_cons, hne, ih, hother,
          if_false]
      · have hkeep : (here == place) = false := beq_false_of_ne (Ne.symm hplace)
        rw [List.map_cons, if_neg (by simpa using hplace), List.lookup_cons, List.lookup_cons,
          List.lookup_cons, hne, hkeep]
        exact ih

/-- A tree with an entry set differs at that place only. -/
theorem lookup_entries_set (e : Entry) :
    (tree.set here e).entries.lookup other =
      if other = here then some e else tree.entries.lookup other := by
  rw [set]
  split
  · next hsome =>
      obtain ⟨old, hold⟩ := Option.isSome_iff_exists.mp hsome
      rw [lookup_map_set, hold, Option.map_some]
  · next hnone =>
      rw [Option.not_isSome_iff_eq_none] at hnone
      rw [List.lookup_append]
      by_cases hother : other = here
      · simp [hother, hnone]
      · have hne : (other == here) = false := beq_false_of_ne hother
        simp [List.lookup_cons, hne, hother]

theorem bytesAt?_set_of_ne {e : Entry} (h : other ≠ here) :
    (tree.set here e).bytesAt? other = tree.bytesAt? other := by
  rw [bytesAt?, entry?, lookup_entries_set, if_neg h, bytesAt?, entry?]

theorem bytesAt?_set_file (h : isRootOrAbove here = false) :
    (tree.set here (.file bytes)).bytesAt? here = some bytes := by
  rw [bytesAt?, entry?, h, lookup_entries_set]
  simp

/-- A directory where there was nothing is no file. -/
theorem bytesAt?_set_directory (h : tree.entry? here = none) :
    (tree.set here .directory).bytesAt? other = tree.bytesAt? other := by
  by_cases hother : other = here
  · subst hother
    have hroot : isRootOrAbove other = false := by
      rw [Bool.eq_false_iff]
      intro hroot
      simp [hroot, entry?] at h
    rw [bytesAt?, entry?, hroot, lookup_entries_set, bytesAt?, h]
    simp
  · exact bytesAt?_set_of_ne hother

/-! ## Writing -/

/-- Directories are made on the way to the place that the parts lead to. -/
theorem place_of_makeAlong {parts : List String} {start : List String} {made : FileTree}
    {target : List String} (h : tree.makeAlong start parts = (made, some target)) :
    target = parts.foldl step start := by
  induction parts generalizing tree start with
  | nil => simp_all [makeAlong]
  | cons part rest ih =>
    simp only [makeAlong] at h
    rw [List.foldl_cons]
    split at h
    · exact ih h
    · simp at h
    · split at h
      · exact ih h
      · simp at h

/-- Making directories leaves all files as they are. -/
theorem bytesAt?_makeAlong (tree : FileTree) (parts start other : List String) :
    (tree.makeAlong start parts).1.bytesAt? other = tree.bytesAt? other := by
  induction parts generalizing tree start with
  | nil => rfl
  | cons part rest ih =>
    simp only [makeAlong]
    split
    · exact ih tree _
    · rfl
    · next hnone =>
        split
        · rw [ih, bytesAt?_set_directory hnone]
        · rfl

theorem bytesAt?_makeParts (tree : FileTree) (parts other : List String) :
    (tree.makeParts parts).1.bytesAt? other = tree.bytesAt? other := by
  rw [makeParts]
  split
  · exact bytesAt?_makeAlong tree parts [] other
  · rfl

theorem place_of_makeParts {parts : List String} {made : FileTree} {target : List String}
    (h : tree.makeParts parts = (made, some target)) : target = parts.foldl step [] := by
  rw [makeParts] at h
  split at h
  · exact place_of_makeAlong h
  · simp at h

/-- What writing a file does: directories are made, and if it succeeds, the bytes are set at the
place of the path. -/
theorem put_cases (tree : FileTree) (path : String) (bytes : ByteArray) :
    (∃ made : FileTree, (∀ other, made.bytesAt? other = tree.bytesAt? other) ∧
        tree.put path bytes = (made, false)) ∨
      ∃ made : FileTree, (∀ other, made.bytesAt? other = tree.bytesAt? other) ∧
        isRootOrAbove (place path) = false ∧
        tree.put path bytes = (made.set (place path) (.file bytes), true) := by
  have hkeeps := bytesAt?_makeParts tree (parts path).dropLast
  rw [put]
  cases hmade : tree.makeParts (parts path).dropLast with
  | mk made place? =>
    rw [hmade] at hkeeps
    cases hlast : (parts path).getLast? with
    | none => exact .inl ⟨made, hkeeps, by cases place? <;> rfl⟩
    | some name =>
      cases place? with
      | none => exact .inl ⟨made, hkeeps, rfl⟩
      | some directory =>
        dsimp only
        split
        · exact .inl ⟨made, hkeeps, rfl⟩
        · next hopen =>
            have hname : name ≠ ".." := by
              rintro rfl
              simp [namesFile] at hopen
            have hplace : place path = directory ++ [name] := by
              obtain ⟨front, hfront⟩ := List.getLast?_eq_some_iff.mp hlast
              rw [hfront, List.dropLast_concat] at hmade
              rw [place, hfront, List.foldl_append, ← place_of_makeParts hmade]
              exact step_of_ne hname directory
            rw [hplace]
            refine .inr ⟨made, hkeeps, ?_, rfl⟩
            simp [isRootOrAbove, hname]

/-- A file that was written is at the place of its path. -/
theorem bytesAt?_put_of_done {path : String} (h : (tree.put path bytes).2 = true) :
    (tree.put path bytes).1.bytesAt? (place path) = some bytes := by
  obtain ⟨made, -, hput⟩ | ⟨made, -, hroot, hput⟩ := tree.put_cases path bytes
  · rw [hput] at h
    cases h
  · rw [hput]
    exact bytesAt?_set_file hroot

/-- Writing a file, done or not, leaves the files at all other places as they are. -/
theorem bytesAt?_put_of_ne {path : String} (h : other ≠ place path) :
    (tree.put path bytes).1.bytesAt? other = tree.bytesAt? other := by
  obtain ⟨made, hkeeps, hput⟩ | ⟨made, hkeeps, -, hput⟩ := tree.put_cases path bytes
  · rw [hput]
    exact hkeeps other
  · rw [hput, bytesAt?_set_of_ne h]
    exact hkeeps other

end FileTree

end Bindery.Output

import Bindery.Class.Source
import Bindery.Proofs.Source.Nesting

/-!
# Texts of a class

A class description holds texts: names, types, values and code. All that source adds to them is
punctuation and indentation, so a class whose texts stay on their lines is written with lines that
do not break.

## Main definitions

* `Statement.bodyStrings`, `AnnotationSpec.strings`, `Member.strings`, `ClassSpec.strings`: the
  texts that a description holds

## Main results

* `Statement.body_induction`: induction on lists of statements, with a hypothesis for each branch
* `AnnotationSpec.newline_notMem_line`, `Statement.newline_notMem_bodyFragments`,
  `Member.newline_notMem_fragments`, `ClassSpec.newline_notMem_fragments`: the source of a
  description whose texts do not break
-/

namespace Bindery

open Source (Buffer Fragment Indent Line)

/-! ## Texts of descriptions -/

/-- The texts of an annotation. -/
def AnnotationSpec.strings (a : AnnotationSpec) : List String :=
  a.name :: a.members.flatMap fun m => [m.1, m.2]

namespace Statement

mutual

/-- The texts of a statement. -/
def strings : Statement → List String
  | .expr code => [code]
  | .ret code => [code]
  | .branch condition body => condition :: bodyStrings body
  | .branchElse condition body alternative =>
    condition :: (bodyStrings body ++ bodyStrings alternative)

/-- The texts of statements. -/
def bodyStrings : List Statement → List String
  | [] => []
  | s :: ss => strings s ++ bodyStrings ss

end

end Statement

/-- The texts of a field declaration. -/
def FieldSpec.strings (f : FieldSpec) : List String :=
  f.type :: f.name :: f.initializer.toList

/-- The texts of a method. -/
def MethodSpec.strings (m : MethodSpec) : List String :=
  m.doc.toList ++ m.annotations.flatMap AnnotationSpec.strings ++ m.returns.toList ++
    m.name :: (m.params.flatMap fun p => [p.type, p.name]) ++ Statement.bodyStrings m.body

/-- The texts of a member. -/
def Member.strings : Member → List String
  | .field f => f.strings
  | .method m => m.strings

/-- The texts of a class. -/
def ClassSpec.strings (spec : ClassSpec) : List String :=
  spec.annotations.flatMap AnnotationSpec.strings ++ spec.name :: spec.superclass.toList ++
    spec.members.flatMap Member.strings

/-! ## Parts of lines -/

theorem Text.newline_notMem_join {sep : String} {pieces : List String} (hsep : '\n' ∉ sep.toList)
    (h : ∀ piece ∈ pieces, '\n' ∉ piece.toList) : '\n' ∉ (Text.join sep pieces).toList := by
  intro hmem
  rcases Text.mem_sep_or_mem_piece hmem with hmem | ⟨piece, hpiece, hmem⟩
  · exact hsep hmem
  · exact h piece hpiece hmem

theorem Target.mem_of_mem_shortTypeName {type : String} {c : Char}
    (h : c ∈ (shortTypeName type).toList) : c ∈ type.toList := by
  rw [shortTypeName] at h
  split at h
  · next rest hrest =>
    rw [Text.dropPrefix?_eq_some_iff] at hrest
    split at h
    · exact h
    · rw [hrest, String.toList_append]
      exact List.mem_append_right _ h
  · exact h

theorem Target.newline_notMem_shortTypeName {type : String} (h : '\n' ∉ type.toList) :
    '\n' ∉ (shortTypeName type).toList :=
  mt mem_of_mem_shortTypeName h

theorem Modifier.newline_notMem_listText (modifiers : List Modifier) :
    '\n' ∉ (listText modifiers).toList := by
  rw [listText, String.toList_join, List.mem_flatMap]
  rintro ⟨_, hmem, hnewline⟩
  obtain ⟨m, -, rfl⟩ := List.mem_map.mp hmem
  revert hnewline
  cases m <;> decide

/-! ## Lines of descriptions -/

/-- The line of an annotation whose texts do not break does not break. -/
theorem AnnotationSpec.newline_notMem_line {a : AnnotationSpec}
    (h : ∀ s ∈ a.strings, '\n' ∉ s.toList) : '\n' ∉ a.line.toList := by
  rw [strings, List.forall_mem_cons] at h
  have hname := Target.newline_notMem_shortTypeName h.1
  have hmembers : '\n' ∉ (Text.join ", " (a.members.map fun m => m.1 ++ " = " ++ m.2)).toList := by
    refine Text.newline_notMem_join (by decide) fun piece hpiece => ?_
    obtain ⟨m, hm, rfl⟩ := List.mem_map.mp hpiece
    have hkey := h.2 m.1 (List.mem_flatMap.mpr ⟨m, hm, by simp⟩)
    have hvalue := h.2 m.2 (List.mem_flatMap.mpr ⟨m, hm, by simp⟩)
    simp [hkey, hvalue]
  rw [line]
  split
  · simpa using hname
  · simp [hname, hmembers]

theorem FieldSpec.newline_notMem_line {f : FieldSpec} (h : ∀ s ∈ f.strings, '\n' ∉ s.toList) :
    '\n' ∉ f.line.toList := by
  simp only [strings, List.forall_mem_cons, Option.mem_toList] at h
  have hmodifiers := Modifier.newline_notMem_listText f.modifiers
  have htype := Target.newline_notMem_shortTypeName h.1
  rw [line]
  split
  · next value hvalue =>
    have hvalue := h.2.2 value hvalue
    simp [hmodifiers, htype, h.2.1, hvalue]
  · simp [hmodifiers, htype, h.2.1]

theorem MethodSpec.newline_notMem_header {m : MethodSpec}
    (h : ∀ s ∈ m.strings, '\n' ∉ s.toList) : '\n' ∉ m.header.toList := by
  simp only [strings, List.forall_mem_append, List.forall_mem_cons, Option.mem_toList] at h
  obtain ⟨⟨⟨-, hreturns⟩, hname, hparams⟩, -⟩ := h
  have hmodifiers := Modifier.newline_notMem_listText m.modifiers
  have hresult : '\n' ∉ ((m.returns.map Target.shortTypeName).getD "void").toList := by
    cases hr : m.returns with
    | none => decide
    | some type => exact Target.newline_notMem_shortTypeName (hreturns type hr)
  have hjoin : '\n' ∉ (Text.join ", "
      (m.params.map fun p => Target.shortTypeName p.type ++ " " ++ p.name)).toList := by
    refine Text.newline_notMem_join (by decide) fun piece hpiece => ?_
    obtain ⟨p, hp, rfl⟩ := List.mem_map.mp hpiece
    have htype := Target.newline_notMem_shortTypeName
      (hparams p.type (List.mem_flatMap.mpr ⟨p, hp, by simp⟩))
    have hparam := hparams p.name (List.mem_flatMap.mpr ⟨p, hp, by simp⟩)
    simp [htype, hparam]
  rw [header]
  simp [hmodifiers, hresult, hname, hjoin]

theorem ClassSpec.newline_notMem_header {spec : ClassSpec}
    (h : ∀ s ∈ spec.strings, '\n' ∉ s.toList) : '\n' ∉ spec.header.toList := by
  simp only [strings, List.forall_mem_append, List.forall_mem_cons, Option.mem_toList] at h
  obtain ⟨⟨-, hname, hsuperclass⟩, -⟩ := h
  have hmodifiers := Modifier.newline_notMem_listText spec.modifiers
  have hextends : '\n' ∉ ((spec.superclass.map (" extends " ++ ·)).getD "").toList := by
    cases hs : spec.superclass with
    | none => decide
    | some superclass => simpa using hsuperclass superclass hs
  rw [header]
  simp [hmodifiers, hname, hextends]

/-! ## Fragments of descriptions -/

namespace Statement

/-- Induction on lists of statements that goes into the branches of the first one. -/
@[elab_as_elim]
theorem body_induction {motive : List Statement → Prop} (nil : motive [])
    (expr : ∀ code ss, motive ss → motive (.expr code :: ss))
    (ret : ∀ code ss, motive ss → motive (.ret code :: ss))
    (branch : ∀ condition body ss, motive body → motive ss → motive (.branch condition body :: ss))
    (branchElse : ∀ condition body alternative ss, motive body → motive alternative → motive ss →
      motive (.branchElse condition body alternative :: ss)) : ∀ ss, motive ss
  | [] => nil
  | .expr code :: ss => expr code ss (body_induction nil expr ret branch branchElse ss)
  | .ret code :: ss => ret code ss (body_induction nil expr ret branch branchElse ss)
  | .branch condition body :: ss =>
    branch condition body ss (body_induction nil expr ret branch branchElse body)
      (body_induction nil expr ret branch branchElse ss)
  | .branchElse condition body alternative :: ss =>
    branchElse condition body alternative ss
      (body_induction nil expr ret branch branchElse body)
      (body_induction nil expr ret branch branchElse alternative)
      (body_induction nil expr ret branch branchElse ss)
termination_by ss => sizeOf ss

/-- The source of statements whose texts do not break does not break. -/
theorem newline_notMem_bodyFragments {ss : List Statement}
    (h : ∀ s ∈ bodyStrings ss, '\n' ∉ s.toList) :
    ∀ s ∈ Fragment.allStrings (bodyFragments ss), '\n' ∉ s.toList := by
  induction ss using body_induction with
  | nil => exact List.forall_mem_nil _
  | expr code ss ih =>
    simp only [bodyStrings, strings, List.singleton_append, List.forall_mem_cons] at h
    refine List.forall_mem_cons.mpr ⟨?_, ih h.2⟩
    simpa using h.1
  | ret code ss ih =>
    simp only [bodyStrings, strings, List.singleton_append, List.forall_mem_cons] at h
    refine List.forall_mem_cons.mpr ⟨?_, ih h.2⟩
    simpa using h.1
  | branch condition body ss ihBody ih =>
    simp only [bodyStrings, strings, List.cons_append, List.forall_mem_cons,
      List.forall_mem_append] at h
    obtain ⟨hcondition, hbody, hss⟩ := h
    simp only [bodyFragments, fragments, List.cons_append, List.nil_append, Fragment.allStrings,
      Fragment.strings, Option.toList_some, List.append_assoc, List.forall_mem_cons,
      List.forall_mem_append]
    exact ⟨by simpa [branchHeader] using hcondition, ihBody hbody, by decide, ih hss⟩
  | branchElse condition body alternative ss ihBody ihAlternative ih =>
    simp only [bodyStrings, strings, List.cons_append, List.append_assoc, List.forall_mem_cons,
      List.forall_mem_append] at h
    obtain ⟨hcondition, hbody, halternative, hss⟩ := h
    simp only [bodyFragments, fragments, List.cons_append, List.nil_append, Fragment.allStrings,
      Fragment.strings, Option.toList_some, Option.toList_none, List.append_assoc,
      List.forall_mem_cons, List.forall_mem_append]
    exact ⟨by simpa [branchHeader] using hcondition, ihBody hbody, by decide,
      ihAlternative halternative, by decide, ih hss⟩

end Statement

/-- An annotation is one line. -/
theorem AnnotationSpec.allLines_fragments (level : Nat) (as : List AnnotationSpec) :
    Fragment.allLines level (as.flatMap fragments) = as.map fun a => .code level a.line := by
  induction as with
  | nil => rfl
  | cons a as ih => rw [List.flatMap_cons, Fragment.allLines_append, ih]; rfl

/-- At the outermost level, the text of an annotation is its line. -/
theorem AnnotationSpec.map_render_allLines (indent : Indent) (as : List AnnotationSpec) :
    (Fragment.allLines 0 (as.flatMap fragments)).map (Line.render indent) = as.map line := by
  rw [allLines_fragments, List.map_map]
  refine List.map_congr_left fun a _ => ?_
  rw [Function.comp, Line.render, Buffer.indentation_zero, String.empty_append]

/-- The source of annotations whose texts do not break does not break. -/
theorem AnnotationSpec.newline_notMem_fragments {as : List AnnotationSpec}
    (h : ∀ s ∈ as.flatMap strings, '\n' ∉ s.toList) :
    ∀ s ∈ Fragment.allStrings (as.flatMap fragments), '\n' ∉ s.toList := by
  induction as with
  | nil => exact List.forall_mem_nil _
  | cons a as ih =>
    rw [List.flatMap_cons, List.forall_mem_append] at h
    exact List.forall_mem_cons.mpr ⟨newline_notMem_line h.1, ih h.2⟩

/-- The source of a member whose texts do not break does not break. -/
theorem Member.newline_notMem_fragments {m : Member} (h : ∀ s ∈ m.strings, '\n' ∉ s.toList) :
    ∀ s ∈ Fragment.allStrings m.fragments, '\n' ∉ s.toList := by
  cases m with
  | field f => exact List.forall_mem_singleton.mpr (FieldSpec.newline_notMem_line h)
  | method m =>
    have hheader := MethodSpec.newline_notMem_header h
    simp only [strings, MethodSpec.strings, List.forall_mem_append] at h
    obtain ⟨⟨⟨⟨hdoc, hannotations⟩, -⟩, -⟩, hbody⟩ := h
    have hcomment : ∀ s ∈ Fragment.allStrings (m.doc.map Fragment.docComment).toList,
        '\n' ∉ s.toList := by
      cases hd : m.doc with
      | none => exact List.forall_mem_nil _
      | some doc => exact List.forall_mem_singleton.mpr (hdoc doc (by simp [hd]))
    simp only [fragments, MethodSpec.fragments, Fragment.allStrings_append,
      Fragment.allStrings_singleton, Fragment.strings, Option.toList_some, List.cons_append,
      List.forall_mem_append, List.forall_mem_cons]
    exact ⟨⟨hcomment, AnnotationSpec.newline_notMem_fragments hannotations⟩, hheader,
      Statement.newline_notMem_bodyFragments hbody, by decide⟩

namespace ClassSpec

theorem newline_notMem_memberFragments {ms : List Member}
    (h : ∀ s ∈ ms.flatMap Member.strings, '\n' ∉ s.toList) :
    ∀ s ∈ Fragment.allStrings (memberFragments ms), '\n' ∉ s.toList := by
  induction ms with
  | nil => exact List.forall_mem_nil _
  | cons m ms ih =>
    rw [List.flatMap_cons, List.forall_mem_append] at h
    have hm := Member.newline_notMem_fragments h.1
    cases ms with
    | nil => exact hm
    | cons next ms =>
      rw [memberFragments, Fragment.allStrings_append, List.forall_mem_append]
      · exact ⟨hm, ih h.2⟩
      · simp

/-- The source of a class whose texts do not break does not break. -/
theorem newline_notMem_fragments {spec : ClassSpec} (h : ∀ s ∈ spec.strings, '\n' ∉ s.toList) :
    ∀ s ∈ Fragment.allStrings spec.fragments, '\n' ∉ s.toList := by
  have hheader := newline_notMem_header h
  rw [strings, List.forall_mem_append, List.forall_mem_append] at h
  rw [fragments, Fragment.allStrings_append, Fragment.allStrings_singleton, Fragment.strings,
    List.forall_mem_append, List.cons_append, List.forall_mem_cons, List.forall_mem_append]
  exact ⟨AnnotationSpec.newline_notMem_fragments h.1.1, hheader,
    newline_notMem_memberFragments h.2, by decide⟩

end ClassSpec

end Bindery

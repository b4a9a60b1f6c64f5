import Bindery.Proofs.Output.Heading
import Bindery.Target.TypeName

/-!
# Casts

How the target language reads an assignment of a cast value to a field of the host: the name of the
field stands between a dot and a blank, and the type of the cast between parentheses. White space
around a type is passed over, so that a type can be read as a primitive one although its text is not
the name of one.

## Main definitions

* `stripped`: a text without the white space around it
* `fieldCast?`: the field and the type text of an assignment of a cast value
* `NamesPrimitive`: a text is read as a primitive type

## Main results

* `fieldCast?_assign`: what is read of the assignment of a cast value
* `fieldCast?_of_blank`, `fieldCast?_of_head?`: other statements are no such assignments
* `namesPrimitive_boxed_iff`: which boxed types are read as primitive ones
-/

namespace Bindery.Target

open Source (upTo)

/-! ## White space -/

/-- Whether the target language takes a character for white space. -/
def isSpace (c : Char) : Bool :=
  c == ' ' || c == '\t' || c == '\n' || c == '\x0c' || c == '\r'

/-- The text without the white space around it. -/
def stripped (text : String) : String :=
  String.ofList ((text.toList.dropWhile isSpace).reverse.dropWhile isSpace).reverse

/-- A text is read as the name of a primitive type. -/
def NamesPrimitive (text : String) : Prop :=
  isPrimitive (stripped text) = true

instance (text : String) : Decidable (NamesPrimitive text) :=
  inferInstanceAs (Decidable (_ = true))

/-! ## Boxed types -/

theorem boxed_of_isPrimitive_eq_false {type : String} (h : isPrimitive type = false) :
    boxed type = type := by
  have hlookup : primitives.lookup type = none := by
    rw [List.lookup_eq_none_iff]
    intro p hp
    rw [isPrimitive, List.any_eq_false] at h
    rw [bne_iff_ne]
    rintro rfl
    exact h p hp (beq_self_eq_true p.1)
  rw [boxed, hlookup, Option.getD_none]

/-- The boxed types of the primitive types are not read as primitive types. -/
theorem not_namesPrimitive_boxed {type : String} (h : isPrimitive type = true) :
    ¬ NamesPrimitive (upTo ')' (boxed type)) := by
  have hall : ∀ p ∈ primitives, ¬ NamesPrimitive (upTo ')' (boxed p.1)) := by decide +kernel
  obtain ⟨p, hp, htype⟩ := List.any_eq_true.mp h
  rw [← beq_iff_eq.mp htype]
  exact hall p hp

/-- A boxed type is read as a primitive type exactly if the type is, without being one. -/
theorem namesPrimitive_boxed_iff (type : String) :
    NamesPrimitive (upTo ')' (boxed type)) ↔
      NamesPrimitive (upTo ')' type) ∧ isPrimitive type = false := by
  cases h : isPrimitive type with
  | true => simp [not_namesPrimitive_boxed h]
  | false => simp [boxed_of_isPrimitive_eq_false h]

/-! ## Reading an assignment -/

/-- The name of the field and the type text of an assignment of a cast value to a field of the
host. -/
def fieldCast? (code : String) : Option (String × String) := do
  let front ← Text.dropPrefix? "target." code
  let behind ← Text.dropPrefix? (upTo ' ' front ++ " = (") front
  if ')' ∈ behind.toList then some (upTo ' ' front, upTo ')' behind) else none

theorem notMem_upTo (stop : Char) (text : String) : stop ∉ (upTo stop text).toList := by
  intro hmem
  rw [upTo, String.toList_ofList] at hmem
  have hne := List.all_eq_true.mp List.all_takeWhile stop hmem
  simp at hne

/-- What stands in front of the first stop does not depend on what stands behind it. -/
theorem upTo_append_stop (stop : Char) (front rest : String) :
    upTo stop (front ++ (String.singleton stop ++ rest)) = upTo stop front := by
  apply String.toList_inj.mp
  simp only [upTo, String.toList_ofList, String.toList_append, String.toList_singleton,
    List.singleton_append]
  induction front.toList with
  | nil => simp
  | cons c cs ih =>
    rw [List.cons_append, List.takeWhile_cons, List.takeWhile_cons, ih]

/-- The assignment of a cast value has the field in front of its first blank, and behind it an
equals sign and a parenthesis. -/
theorem exists_of_fieldCast? {code : String} {cast : String × String}
    (h : fieldCast? code = some cast) :
    ∃ front more, ' ' ∉ front ∧ code.toList = front ++ ' ' :: '=' :: ' ' :: '(' :: more := by
  simp only [fieldCast?, Option.bind_eq_bind, Option.bind_eq_some_iff] at h
  obtain ⟨front, hfront, behind, hbehind, -⟩ := h
  rw [Text.dropPrefix?_eq_some_iff] at hfront hbehind
  refine ⟨"target.".toList ++ (upTo ' ' front).toList, behind.toList, ?_, ?_⟩
  · rw [List.mem_append]
    rintro (hmem | hmem)
    · exact absurd hmem (by decide)
    · exact notMem_upTo ' ' front hmem
  · rw [hfront, String.toList_append, List.append_assoc, List.append_cancel_left_eq]
    calc front.toList
        = (upTo ' ' front ++ " = (" ++ behind).toList := congrArg String.toList hbehind
      _ = (upTo ' ' front).toList ++ ' ' :: '=' :: ' ' :: '(' :: behind.toList := by simp

/-- A statement with something else behind its first blank assigns no cast value. -/
theorem fieldCast?_of_blank {code : String} {front rest : List Char} (hblank : ' ' ∉ front)
    (hcode : code.toList = front ++ ' ' :: rest)
    (hrest : ∀ more, rest ≠ '=' :: ' ' :: '(' :: more) : fieldCast? code = none := by
  cases hcast : fieldCast? code with
  | none => rfl
  | some cast =>
    obtain ⟨front', more, hblank', hcode'⟩ := exists_of_fieldCast? hcast
    rw [hcode] at hcode'
    exact absurd (Text.append_separator_inj hblank hblank' hcode').2 (hrest more)

/-- A statement that does not start as the name of the host does assigns no cast value. -/
theorem fieldCast?_of_head? {code : String} {c : Char} (hcode : code.toList.head? = some c)
    (hc : 't' ≠ c) : fieldCast? code = none := by
  rw [fieldCast?, Text.dropPrefix?_of_head? (p := 't') (by decide) hcode hc]
  rfl

variable {name : String} (hname : ' ' ∉ name.toList)

include hname

/-- The assignment of a cast value is read with the name of its field and the text of its type. -/
theorem fieldCast?_assign (type source : String) :
    fieldCast? ("target." ++ name ++ " = " ++ ("(" ++ type ++ ") " ++ source)) =
      some (name, upTo ')' type) := by
  have hopen : " = (" = " = " ++ "(" := rfl
  have hblank : " = " = String.singleton ' ' ++ "= " := rfl
  have hclose : ") " = String.singleton ')' ++ " " := rfl
  have hfront (rest : String) : upTo ' ' (name ++ (" = " ++ rest)) = name := by
    rw [hblank, String.append_assoc]
    exact Source.upTo_append hname
  have htype : upTo ')' (type ++ (") " ++ source)) = upTo ')' type := by
    rw [hclose, String.append_assoc]
    exact upTo_append_stop ')' type (" " ++ source)
  have hmem : ')' ∈ (type ++ (") " ++ source)).toList := by
    rw [hclose]
    simp
  have hbehind : name ++ (" = " ++ ("(" ++ (type ++ (") " ++ source)))) =
      name ++ " = (" ++ (type ++ (") " ++ source)) := by
    rw [hopen]
    simp only [String.append_assoc]
  simp only [String.append_assoc]
  rw [fieldCast?, Text.dropPrefix?_append, Option.bind_eq_bind, Option.bind_some, hfront, hbehind,
    Text.dropPrefix?_append]
  exact (if_pos hmem).trans (by rw [htype])

/-- A value that does not start with a parenthesis is no cast. -/
theorem fieldCast?_of_value {value : String} (hvalue : ∀ more, value.toList ≠ '(' :: more) :
    fieldCast? ("target." ++ name ++ " = " ++ value) = none := by
  have hcode : ("target." ++ name ++ " = " ++ value).toList =
      ("target.".toList ++ name.toList) ++ ' ' :: '=' :: ' ' :: value.toList := by simp
  refine fieldCast?_of_blank ?_ hcode ?_
  · rw [List.mem_append]
    rintro (hmem | hmem)
    · exact absurd hmem (by decide)
    · exact hname hmem
  · intro more heq
    exact hvalue more (List.cons.inj (List.cons.inj heq).2).2

/-- The assignment of the host itself is no assignment to a field of it. -/
theorem fieldCast?_of_host (more : String) : fieldCast? (name ++ " target = " ++ more) = none := by
  have hcode : (name ++ " target = " ++ more).toList =
      name.toList ++ ' ' :: ("target = ".toList ++ more.toList) := by simp
  refine fieldCast?_of_blank hname hcode ?_
  intro more heq
  exact absurd (List.cons.inj heq).1 (by decide)

end Bindery.Target

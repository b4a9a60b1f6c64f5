import Bindery.Category.Basic

/-!
# What accepted fields have

The check of a kind is what its statements rely on. A field that a kind accepts has everything the
statements of the kind ask for, so that the answers kept for other fields are never used.

## Main results

* `View.check_eq_ok_iff`: an accepted view field has an id in range
* `Preference.check_eq_ok_iff`: an accepted preference field has a key and an accessor
* `Service.check_eq_ok_iff`: an accepted service field has a name for its service
-/

namespace Bindery

namespace Field

/-- A key is explicit if it is given and not empty. -/
theorem explicitKey_eq_some_iff {f : Field} {key : String} :
    f.explicitKey = some key ↔ f.key = some key ∧ key ≠ "" := by
  rw [explicitKey, Option.filter_eq_some_iff, bne_iff_ne]

theorem explicitKey_eq_none_iff {f : Field} :
    f.explicitKey = none ↔ f.key = none ∨ f.key = some "" := by
  rw [explicitKey, Option.filter_eq_none_iff]
  cases f.key with
  | none => simp
  | some key => simp

end Field

namespace Category

theorem View.check_eq_ok_iff {f : Field} :
    View.check f = .ok () ↔
      ∃ id, f.id = some id ∧ 1 ≤ id ∧ id ≤ maxId ∧ Target.isPrimitive f.type = false := by
  rw [View.check]
  cases hid : f.id with
  | none => simp
  | some id =>
    by_cases hrange : id ≤ 0 ∨ id > maxId
    · simp only [hrange, if_true, reduceCtorEq, Option.some.injEq, false_iff]
      rintro ⟨_, rfl, hlow, hhigh, -⟩
      omega
    · have hlow : 1 ≤ id := by omega
      have hhigh : id ≤ maxId := by omega
      cases hprimitive : Target.isPrimitive f.type with
      | true => simp [hrange]
      | false => simp [hrange, hlow, hhigh]

theorem Preference.check_eq_ok_iff {f : Field} :
    Preference.check f = .ok () ↔
      ∃ key accessor, f.explicitKey = some key ∧ accessor? f.type = some accessor := by
  rw [Preference.check]
  cases f.explicitKey with
  | none => simp
  | some key =>
    cases accessor? f.type with
    | none => simp
    | some accessor => simp

theorem Service.check_eq_ok_iff {f : Field} :
    Service.check f = .ok () ↔
      Target.isPrimitive f.type = false ∧ ∃ service, nameExpression? f = some service := by
  rw [Service.check]
  cases Target.isPrimitive f.type with
  | true => simp
  | false =>
    cases nameExpression? f with
    | none => simp
    | some service => simp

/-- A service is named by an explicit key, or else by the constant of its type. -/
theorem Service.nameExpression?_eq_some_iff {f : Field} {service : String} :
    nameExpression? f = some service ↔
      (∃ key, f.explicitKey = some key ∧ service = Target.literal key) ∨
        f.explicitKey = none ∧ ∃ constant, constants.lookup f.type = some constant ∧
          service = "android.content.Context." ++ constant := by
  rw [nameExpression?]
  cases f.explicitKey with
  | some key => simp [eq_comm]
  | none => simp [eq_comm]

end Category

end Bindery

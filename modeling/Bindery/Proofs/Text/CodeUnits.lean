import Mathlib.Logic.Function.Basic

/-!
# Code units

A text as the sequence of its UTF-16 code units, which is what a literal of the target language
denotes. A character beyond the first 65536 is two surrogates, and no other character is mistaken
for one: so a text is determined by its code units, and the unit of an early character stands for
nothing else.

## Main definitions

* `Text.codeUnits`: the code units of a text

## Main results

* `Text.codeUnits_injective`: the code units determine the text
* `Text.notMem_unitsOf`: the unit of an early character is no unit of another one
-/

namespace Bindery.Text

/-- The code units of a character: one, or a high and a low surrogate. -/
def unitsOf (c : Char) : List Nat :=
  if c.toNat < 0x10000 then [c.toNat]
  else [0xD800 + (c.toNat - 0x10000) / 0x400, 0xDC00 + (c.toNat - 0x10000) % 0x400]

/-- The code units of a text. -/
def codeUnits (cs : List Char) : List Nat := cs.flatMap unitsOf

theorem codeUnits_nil : codeUnits [] = [] := rfl

theorem codeUnits_cons (c : Char) (cs : List Char) :
    codeUnits (c :: cs) = unitsOf c ++ codeUnits cs :=
  List.flatMap_cons

theorem codeUnits_append (cs ds : List Char) :
    codeUnits (cs ++ ds) = codeUnits cs ++ codeUnits ds :=
  List.flatMap_append

theorem unitsOf_of_lt {c : Char} (h : c.toNat < 0x10000) : unitsOf c = [c.toNat] :=
  if_pos h

theorem unitsOf_of_le {c : Char} (h : 0x10000 ≤ c.toNat) :
    unitsOf c =
      [0xD800 + (c.toNat - 0x10000) / 0x400, 0xDC00 + (c.toNat - 0x10000) % 0x400] :=
  if_neg (Nat.not_lt.mpr h)

theorem unitsOf_ne_nil (c : Char) : unitsOf c ≠ [] := by
  rw [unitsOf]
  split <;> exact List.cons_ne_nil _ _

/-- A character is no surrogate, and it is at most the last code point. -/
theorem toNat_cases (c : Char) : c.toNat < 0xD800 ∨ 0xDFFF < c.toNat ∧ c.toNat < 0x110000 :=
  c.valid

/-- The unit of a character in front of the surrogates is no unit of another character. -/
theorem notMem_unitsOf {a c : Char} (ha : a.toNat < 0xD800) (hne : c ≠ a) :
    a.toNat ∉ unitsOf c := by
  by_cases hc : c.toNat < 0x10000
  · rw [unitsOf_of_lt hc, List.mem_singleton]
    exact fun heq => hne (Char.toNat_inj.mp heq.symm)
  · rw [unitsOf_of_le (Nat.not_lt.mp hc), List.mem_cons, List.mem_singleton]
    omega

/-- What a text starts with is determined by its first code units. -/
theorem unitsOf_append_inj {c d : Char} {us vs : List Nat}
    (h : unitsOf c ++ us = unitsOf d ++ vs) : c = d ∧ us = vs := by
  have hc := toNat_cases c
  have hd := toNat_cases d
  by_cases hsmall : c.toNat < 0x10000 <;> by_cases hsmall' : d.toNat < 0x10000
  · rw [unitsOf_of_lt hsmall, unitsOf_of_lt hsmall'] at h
    obtain ⟨hunit, hrest⟩ := List.cons.inj h
    exact ⟨Char.toNat_inj.mp hunit, hrest⟩
  · rw [unitsOf_of_lt hsmall, unitsOf_of_le (Nat.not_lt.mp hsmall')] at h
    obtain ⟨hunit, -⟩ := List.cons.inj h
    omega
  · rw [unitsOf_of_le (Nat.not_lt.mp hsmall), unitsOf_of_lt hsmall'] at h
    obtain ⟨hunit, -⟩ := List.cons.inj h
    omega
  · rw [unitsOf_of_le (Nat.not_lt.mp hsmall), unitsOf_of_le (Nat.not_lt.mp hsmall')] at h
    obtain ⟨hhigh, hlow⟩ := List.cons.inj h
    obtain ⟨hlow, hrest⟩ := List.cons.inj hlow
    exact ⟨Char.toNat_inj.mp (by omega), hrest⟩

/-- The code units determine the text. -/
theorem codeUnits_injective : Function.Injective codeUnits := by
  intro cs
  induction cs with
  | nil =>
    intro ds h
    cases ds with
    | nil => rfl
    | cons d ds =>
      rw [codeUnits_nil, codeUnits_cons] at h
      exact absurd (List.nil_eq_append_iff.mp h).1 (unitsOf_ne_nil d)
  | cons c cs ih =>
    intro ds h
    cases ds with
    | nil =>
      rw [codeUnits_nil, codeUnits_cons] at h
      exact absurd (List.append_eq_nil_iff.mp h).1 (unitsOf_ne_nil c)
    | cons d ds =>
      rw [codeUnits_cons, codeUnits_cons] at h
      obtain ⟨rfl, hrest⟩ := unitsOf_append_inj h
      rw [ih hrest]

end Bindery.Text

import Bindery.Target.Identifier

/-!
# Characters of names

Among the ASCII characters, names are made of letters, digits, the underscore and the dollar sign:
the tables of all scripts have three ranges there, and begin further on for the rest.

## Main definitions

* `asciiRanges`: the letters and digits of ASCII

## Main results

* `isIdentifierChar_of_ascii`: the ASCII characters that may stand in a name
* `isIdentifierChar_eq_false`: a mark or a blank may not
* `identifierFault?_eq_none_iff`: the texts that are well formed as names
-/

namespace Bindery

/-- The ranges of a table that begin at a bound play no part in front of the bound. -/
theorem Text.Unicode.inRanges_take_of_lt {ranges : List Range} {bound n : Nat} (k : Nat)
    (hfar : (ranges.drop k).all (fun r => bound ≤ r.first) = true) (h : n < bound) :
    inRanges ranges n = inRanges (ranges.take k) n := by
  have hnone : ((ranges.drop k).any fun r => r.first ≤ n && n ≤ r.last) = false := by
    rw [List.any_eq_false]
    intro r hr hin
    have hfirst := of_decide_eq_true (List.all_eq_true.mp hfar r hr)
    rw [Bool.and_eq_true, decide_eq_true_eq] at hin
    omega
  rw [inRanges, inRanges, ← List.take_append_drop k ranges, List.any_append, hnone, Bool.or_false,
    List.take_append_drop]

namespace Target

/-- The letters and the digits of ASCII. -/
def asciiRanges : List Text.Unicode.Range :=
  [⟨0x41, 0x5A⟩, ⟨0x61, 0x7A⟩, ⟨0x30, 0x39⟩]

open Text.Unicode in
/-- An ASCII character may stand in a name if it is a letter, a digit, an underscore or a dollar
sign. -/
theorem isIdentifierChar_of_ascii {c : Char} (h : c.toNat < 128) :
    isIdentifierChar c = (inRanges asciiRanges c.toNat || c == '_' || c == '$') := by
  have hletters : Text.isAlphabetic c = inRanges (alphabeticRanges.take 2) c.toNat :=
    inRanges_take_of_lt 2 (by decide +kernel) h
  have hdigits : Text.isNumeric c = inRanges (numericRanges.take 1) c.toNat :=
    inRanges_take_of_lt 1 (by decide +kernel) h
  have hascii : asciiRanges = alphabeticRanges.take 2 ++ numericRanges.take 1 := rfl
  rw [isIdentifierChar, Text.isAlphanumeric, hletters, hdigits, hascii, inRanges, inRanges,
    inRanges, List.any_append]

/-- An ASCII character that is no letter, digit, underscore or dollar sign may not stand in a
name. -/
theorem isIdentifierChar_eq_false {c : Char} (h : c.toNat < 128)
    (hmark : (Text.Unicode.inRanges asciiRanges c.toNat || c == '_' || c == '$') = false) :
    isIdentifierChar c = false := by
  rw [isIdentifierChar_of_ascii h, hmark]

/-- A text is well formed as a name exactly if its characters are those of names and the first one
is no digit. -/
theorem identifierFault?_eq_none_iff {name : String} :
    identifierFault? name = none ↔
      ∃ c cs, name.toList = c :: cs ∧ c.isDigit = false ∧
        ∀ c' ∈ c :: cs, isIdentifierChar c' = true := by
  rw [identifierFault?]
  cases name.toList with
  | nil => simp
  | cons c cs =>
    dsimp only
    constructor
    · intro h
      refine ⟨c, cs, rfl, ?_⟩
      grind
    · rintro ⟨_, _, ⟨⟩, hdigit, hchars⟩
      rw [List.forall_mem_cons] at hchars
      simpa [hdigit, hchars.1] using hchars.2

end Target

end Bindery

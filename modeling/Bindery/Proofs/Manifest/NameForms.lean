import Bindery.Proofs.Manifest.Validation
import Bindery.Proofs.Target.Identifier

/-!
# The form of names

In the wording of its faults a name starts with a letter or a mark and goes on with letters, digits
and marks, where letters and digits can be of any script. The form of names is decided otherwise: it
keeps out the ASCII digits at the start, and everywhere takes whatever is a letter or a number. The
two differ in numbers that are no letters: such a number can stand at the start of a name if it is
not ASCII, and further on even if it is no digit.

## Main definitions

* `Target.IsStart`, `Target.IsPlainNumber`: letters and marks, and numbers that are no letters
* `Target.IsAsWorded`: the names that the wording of the faults describes
* `Target.HasStrayNumber`: the names in which a number stands that the wording does not allow

## Main results

* `Target.isIdentifierChar_iff`: what may stand in a name is a start or a plain number, never both
* `Target.identifierFault?_eq_none_iff_worded`: the form of names, compared with its wording
* `accepted_names_as_worded`: the names and the segments that pass the check of a manifest
-/

namespace Bindery

namespace Target

/-- The character is a letter, an underscore or a dollar sign. -/
def IsStart (c : Char) : Prop := Text.isAlphabetic c = true ∨ c = '_' ∨ c = '$'

/-- The character is a number of some script and no letter. There are also numbers that are letters,
such as the Roman numerals. -/
def IsPlainNumber (c : Char) : Prop := Text.isNumeric c = true ∧ Text.isAlphabetic c = false

instance (c : Char) : Decidable (IsStart c) := inferInstanceAs (Decidable (_ ∨ _))

instance (c : Char) : Decidable (IsPlainNumber c) := inferInstanceAs (Decidable (_ ∧ _))

/-- The first character of a text is a number and no letter. -/
def StartsWithNumber (name : String) : Prop := ∃ c ∈ name.toList.head?, IsPlainNumber c

/-- What the faults of a name ask for in words, if digits are the characters of a class: a first
character that is a letter or a mark, and letters, digits and marks behind it. -/
def IsAsWorded (digit : Char → Bool) (name : String) : Prop :=
  ∃ c cs, name.toList = c :: cs ∧ IsStart c ∧ ∀ c' ∈ cs, IsStart c' ∨ digit c' = true

/-- A text of letters, numbers and marks in which a number stands where the wording has none: at the
start without being an ASCII digit, or further on without being a digit. -/
def HasStrayNumber (digit : Char → Bool) (name : String) : Prop :=
  ∃ c cs, name.toList = c :: cs ∧ (∀ c' ∈ c :: cs, IsStart c' ∨ IsPlainNumber c') ∧
    c.isDigit = false ∧ (IsPlainNumber c ∨ ∃ c' ∈ cs, IsPlainNumber c' ∧ digit c' = false)

/-! ## Characters -/

theorem IsStart.not_isPlainNumber {c : Char} (h : IsStart c) : ¬ IsPlainNumber c := by
  rintro ⟨hnumeric, hletter⟩
  rcases h with h | rfl | rfl
  · rw [hletter] at h
    cases h
  · exact absurd hnumeric (by decide +kernel)
  · exact absurd hnumeric (by decide +kernel)

theorem toNat_of_isDigit {c : Char} (h : c.isDigit = true) : 0x30 ≤ c.toNat ∧ c.toNat ≤ 0x39 := by
  simp only [Char.isDigit, ge_iff_le, Bool.and_eq_true, decide_eq_true_eq,
    UInt32.le_iff_toNat_le] at h
  exact h

/-- The table of letters begins behind the ASCII digits. -/
theorem IsStart.isDigit_eq_false {c : Char} (h : IsStart c) : c.isDigit = false := by
  rw [Bool.eq_false_iff]
  intro hdigit
  have hlt : c.toNat < 0x41 := Nat.lt_of_le_of_lt (toNat_of_isDigit hdigit).2 (by decide)
  rcases h with h | rfl | rfl
  · rw [Text.isAlphabetic, Text.Unicode.inRanges_take_of_lt 0 (by decide +kernel) hlt] at h
    cases h
  · exact absurd hdigit (by decide)
  · exact absurd hdigit (by decide)

/-- The table of numbers begins with the ASCII digits. -/
theorem isNumeric_of_isDigit {c : Char} (h : c.isDigit = true) : Text.isNumeric c = true := by
  rw [Text.isNumeric, Text.Unicode.inRanges, List.any_eq_true]
  refine ⟨⟨0x30, 0x39⟩, List.mem_cons_self, ?_⟩
  simpa using toNat_of_isDigit h

/-- What may stand in a name. -/
theorem isIdentifierChar_iff {c : Char} :
    isIdentifierChar c = true ↔ IsStart c ∨ IsPlainNumber c := by
  rw [isIdentifierChar, Text.isAlphanumeric, IsStart, IsPlainNumber]
  cases Text.isAlphabetic c <;> cases Text.isNumeric c <;> simp

/-! ## Names -/

variable {digit : Char → Bool} {name : String}

theorem IsAsWorded.not_startsWithNumber (h : IsAsWorded digit name) : ¬ StartsWithNumber name := by
  obtain ⟨c, cs, hname, hstart, -⟩ := h
  rintro ⟨_, hhead, hnumber⟩
  rw [hname] at hhead
  cases hhead
  exact hstart.not_isPlainNumber hnumber

theorem IsAsWorded.not_hasStrayNumber (h : IsAsWorded digit name) :
    ¬ HasStrayNumber digit name := by
  obtain ⟨c, cs, hname, hstart, hrest⟩ := h
  rintro ⟨_, _, hname', -, -, hstray⟩
  cases hname.symm.trans hname'
  rcases hstray with hfirst | ⟨c', hc', hnumber, hdigit⟩
  · exact hstart.not_isPlainNumber hfirst
  · rcases hrest c' hc' with hstart' | hdigit'
    · exact hstart'.not_isPlainNumber hnumber
    · rw [hdigit] at hdigit'
      cases hdigit'

/-- The form of names is what the wording says, but for stray numbers. -/
theorem identifierFault?_eq_none_iff_worded
    (hdigit : ∀ c, digit c = true → Text.isNumeric c = true) :
    identifierFault? name = none ↔ IsAsWorded digit name ∨ HasStrayNumber digit name := by
  rw [identifierFault?_eq_none_iff]
  simp only [isIdentifierChar_iff]
  constructor
  · rintro ⟨c, cs, hname, hascii, hchars⟩
    by_cases hstray : IsPlainNumber c ∨ ∃ c' ∈ cs, IsPlainNumber c' ∧ digit c' = false
    · exact .inr ⟨c, cs, hname, hchars, hascii, hstray⟩
    · rw [List.forall_mem_cons] at hchars
      rw [not_or] at hstray
      refine .inl ⟨c, cs, hname, hchars.1.resolve_right hstray.1, fun c' hc' => ?_⟩
      refine (hchars.2 c' hc').imp_right fun hnumber => ?_
      rw [← Bool.not_eq_false]
      exact fun hno => hstray.2 ⟨c', hc', hnumber, hno⟩
  · rintro (⟨c, cs, hname, hstart, hrest⟩ | ⟨c, cs, hname, hchars, hascii, -⟩)
    · refine ⟨c, cs, hname, hstart.isDigit_eq_false, List.forall_mem_cons.mpr ⟨.inl hstart, ?_⟩⟩
      intro c' hc'
      rcases hrest c' hc' with hstart' | hdigit'
      · exact .inl hstart'
      · by_cases hletter : Text.isAlphabetic c' = true
        · exact .inl (.inl hletter)
        · exact .inr ⟨hdigit c' hdigit', Bool.eq_false_iff.mpr hletter⟩
    · exact ⟨c, cs, hname, hascii, hchars⟩

end Target

open Target (IsAsWorded HasStrayNumber StartsWithNumber identifierFault? reservedWords)

/-- **Names are accepted as worded, but for stray numbers.** Whichever numbers are called digits, a
text has the form of a name exactly if it is as the faults say in words, or has a number that is no
letter where the words have none. The words keep numbers away from the start. So the rule for names
accepts what is no reserved word and is as worded or has a stray number; the rule for qualified
names accepts exactly the names with such segments. -/
theorem accepted_names_as_worded (digit : Char → Bool)
    (hdigit : ∀ c, digit c = true → Text.isNumeric c = true) (name : String) :
    (identifierFault? name = none ↔ IsAsWorded digit name ∨ HasStrayNumber digit name) ∧
      (IsAsWorded digit name → ¬ HasStrayNumber digit name ∧ ¬ StartsWithNumber name) ∧
      ∀ source role start,
        (Validation.checkName source name role start = .ok () ↔
          name ∉ reservedWords ∧ (IsAsWorded digit name ∨ HasStrayNumber digit name)) ∧
        (Validation.checkQualifiedName source name role start = .ok () ↔
          ∀ segment ∈ Text.segments name, segment ∉ reservedWords ∧
            (IsAsWorded digit segment ∨ HasStrayNumber digit segment)) := by
  have hname : ∀ segment, Target.IsName segment ↔ segment ∉ reservedWords ∧
      (IsAsWorded digit segment ∨ HasStrayNumber digit segment) := fun segment =>
    and_congr_right fun _ => Target.identifierFault?_eq_none_iff_worded hdigit
  refine ⟨Target.identifierFault?_eq_none_iff_worded hdigit,
    fun h => ⟨h.not_hasStrayNumber, h.not_startsWithNumber⟩, fun source role start => ⟨?_, ?_⟩⟩
  · rw [Validation.checkName_eq_ok_iff, hname]
  · rw [Validation.checkQualifiedName_eq_ok_iff]
    simp only [hname]

/-- A name with letters beyond ASCII, and with an ASCII digit at its end. -/
theorem accented_name_as_worded :
    let name := "\u00C9t\u00E92"
    IsAsWorded Char.isDigit name ∧ Validation.checkName [] name .host 0 = .ok () ∧
      ¬ StartsWithNumber name := by
  intro name
  obtain ⟨hfirst, ht, he⟩ :
      Target.IsStart '\u00C9' ∧ Target.IsStart 't' ∧ Target.IsStart '\u00E9' := by
    decide +kernel
  have hworded : IsAsWorded Char.isDigit name := by
    refine ⟨'\u00C9', ['t', '\u00E9', '2'], by decide, hfirst, ?_⟩
    simp only [List.forall_mem_cons]
    exact ⟨.inl ht, .inl he, .inr (by decide), List.forall_mem_nil _⟩
  obtain ⟨-, hstart, hrules⟩ :=
    accepted_names_as_worded Char.isDigit (fun _ => Target.isNumeric_of_isDigit) name
  exact ⟨hworded, (hrules [] .host 0).1.mpr ⟨by decide, .inl hworded⟩, (hstart hworded).2⟩

/-- The Arabic-Indic digit three starts a name that all rules accept. -/
theorem arabic_digit_starts_name :
    let name := "\u0663x"
    identifierFault? name = none ∧ Validation.checkName [] name .host 0 = .ok () ∧
      Validation.checkQualifiedName [] name .host 0 = .ok () ∧ StartsWithNumber name ∧
        ¬ IsAsWorded Text.isNumeric name := by
  intro name
  have hdigit : Target.IsPlainNumber '\u0663' := ⟨by decide +kernel, by decide +kernel⟩
  have hx : Target.IsStart 'x' := .inl (by decide +kernel)
  have hstarts : StartsWithNumber name := ⟨'\u0663', by decide, hdigit⟩
  have hstray : HasStrayNumber Text.isNumeric name := by
    refine ⟨'\u0663', ['x'], by decide, ?_, by decide, .inl hdigit⟩
    simp only [List.forall_mem_cons]
    exact ⟨.inr hdigit, .inl hx, List.forall_mem_nil _⟩
  have hform : identifierFault? name = none :=
    (Target.identifierFault?_eq_none_iff_worded fun _ h => h).mpr (.inr hstray)
  have hname : Target.IsName name := ⟨by decide, hform⟩
  refine ⟨hform, Validation.checkName_eq_ok_iff.mpr hname, ?_, hstarts,
    fun hworded => hworded.not_startsWithNumber hstarts⟩
  rw [Validation.checkQualifiedName_eq_ok_iff]
  have hsegments : Text.segments name = [name] := by decide
  simpa only [hsegments, List.forall_mem_singleton] using hname

end Bindery

import Bindery.Document.Scalar
import Bindery.Proofs.Document.Cursor

/-!
# Numerals

The decimal numeral of an integer is read back as that integer. It is a run of digits behind a minus
sign for a negative number, without a zero in front of other digits.

## Main results

* `integer?_toString`: a numeral is read as its number
* `scalar_takes_integer`, `scalar_takes_boolean`: numerals and truth values are read back
-/

namespace Bindery.Document

open Text (byteLength)

/-! ## Digits -/

theorem digitGroups?_of_digits {cs : List Char} (hne : cs ≠ []) (h : ∀ c ∈ cs, c.isDigit) :
    digitGroups? Char.isDigit cs = some cs := by
  induction cs with
  | nil => exact absurd rfl hne
  | cons c cs ih =>
    rw [List.forall_mem_cons] at h
    cases cs with
    | nil => simp [digitGroups?, h.1]
    | cons d ds =>
      have hd : d ≠ '_' := by
        rintro rfl
        exact absurd (h.2 '_' (by simp)) (by decide)
      simp [digitGroups?, hd, h.1, ih (by simp) h.2]

theorem ofDigits_toDigits (n : Nat) : Decimal.ofDigits 10 (Nat.toDigits 10 n) = n := by
  have hfold : ∀ (cs : List Char), (∀ c ∈ cs, c.isDigit) → ∀ start,
      cs.foldl (fun n c => 10 * n + Decimal.ofDigits.digitValue c) start =
        Nat.ofDigitChars 10 cs start := by
    intro cs hcs
    induction cs with
    | nil => exact fun _ => rfl
    | cons c cs ih =>
      rw [List.forall_mem_cons] at hcs
      intro start
      have hc : Decimal.ofDigits.digitValue c = c.toNat - '0'.toNat := by
        simp [Decimal.ofDigits.digitValue, hcs.1]
      rw [List.foldl_cons, ih hcs.2, hc]
      rfl
  rw [Decimal.ofDigits, hfold _ fun c hc => Nat.isDigit_of_mem_toDigits (by omega) (by omega) hc]
  exact Nat.ofDigitChars_ten_toDigits

/-- A numeral has no zero in front, unless it is a zero. -/
theorem toDigits_ne_zero_cons (n : Nat) (c : Char) (cs : List Char) :
    Nat.toDigits 10 n ≠ '0' :: c :: cs := by
  induction n using Nat.strongRecOn generalizing c cs with
  | ind n ih =>
    rcases Nat.lt_or_ge n 10 with hn | hn
    · simp [Nat.toDigits_of_lt_base hn]
    · rw [Nat.toDigits_of_base_le (by omega) hn]
      intro h
      cases hfront : Nat.toDigits 10 (n / 10) with
      | nil => exact Nat.toDigits_ne_nil hfront
      | cons d ds =>
        rw [hfront, List.cons_append, List.cons.injEq] at h
        obtain ⟨rfl, hds⟩ := h
        cases ds with
        | nil =>
          have hvalue := ofDigits_toDigits (n / 10)
          rw [hfront] at hvalue
          have hzero : Decimal.ofDigits 10 ['0'] = 0 := by decide
          omega
        | cons e es => exact ih (n / 10) (by omega) e es hfront

theorem isDigit_of_mem_toDigits {n : Nat} {c : Char} (hc : c ∈ Nat.toDigits 10 n) : c.isDigit :=
  Nat.isDigit_of_mem_toDigits (by omega) (by omega) hc

/-- What is no digit does not stand in front of a numeral. -/
theorem toDigits_ne_cons {c : Char} (hc : c.isDigit = false) (n : Nat) (cs : List Char) :
    Nat.toDigits 10 n ≠ c :: cs := by
  intro h
  have hmem : c ∈ Nat.toDigits 10 n := h ▸ List.mem_cons_self
  rw [isDigit_of_mem_toDigits hmem] at hc
  exact absurd hc (by decide)

theorem decimalDigits?_toDigits (n : Nat) :
    decimalDigits? false (Nat.toDigits 10 n) = some (Nat.toDigits 10 n) := by
  have hgroups := digitGroups?_of_digits Nat.toDigits_ne_nil
    fun c hc => isDigit_of_mem_toDigits (n := n) hc
  unfold decimalDigits?
  split
  · next ds hds => exact absurd hds (toDigits_ne_cons (by decide) n ds)
  · rw [hgroups]
    split
    · next c ds hds => exact absurd (Option.some.inj hds) (toDigits_ne_zero_cons n c ds)
    · rfl

/-- The leading digits of a numeral are all of it. -/
theorem span_isDigit_toDigits (n : Nat) :
    (Nat.toDigits 10 n).takeWhile Char.isDigit = Nat.toDigits 10 n ∧
      (Nat.toDigits 10 n).dropWhile Char.isDigit = [] := by
  have hdigits : ∀ c ∈ Nat.toDigits 10 n, c.isDigit := fun c => isDigit_of_mem_toDigits
  have hend : ∀ c ∈ ([] : List Char).head?, c.isDigit = false := by simp
  have htake := Cursor.takeWhile_append hdigits hend 0
  simp only [Cursor.takeWhile, List.append_nil, Prod.mk.injEq, Cursor.mk.injEq] at htake
  exact ⟨htake.1, htake.2.2⟩

theorem splitSign_toDigits (n : Nat) :
    splitSign (Nat.toDigits 10 n) = (none, Nat.toDigits 10 n) := by
  unfold splitSign
  split
  · next ds hds => exact absurd hds (toDigits_ne_cons (by decide) n ds)
  · next ds hds => exact absurd hds (toDigits_ne_cons (by decide) n ds)
  · rfl

/-! ## Integers -/

theorem toList_toString_natCast (n : Nat) : (toString (n : Int)).toList = Nat.toDigits 10 n :=
  String.toList_ofList

theorem toList_toString_negSucc (n : Nat) :
    (toString (Int.negSucc n)).toList = '-' :: Nat.toDigits 10 (n + 1) := by
  have h : toString (Int.negSucc n) = "-" ++ String.ofList (Nat.toDigits 10 (n + 1)) := rfl
  simp [h, String.toList_append]

/-- A numeral is read as its number. -/
theorem integer?_toString (n : Int) : integer? (toString n).toList = some (some n) := by
  cases n with
  | ofNat n =>
    rw [Int.ofNat_eq_natCast, toList_toString_natCast]
    unfold integer?
    split
    · next ds hds => exact absurd hds (toDigits_ne_zero_cons n 'x' ds)
    · next ds hds => exact absurd hds (toDigits_ne_zero_cons n 'o' ds)
    · next ds hds => exact absurd hds (toDigits_ne_zero_cons n 'b' ds)
    · simp [splitSign_toDigits, span_isDigit_toDigits, decimalDigits?_toDigits, ofDigits_toDigits,
        withSign]
  | negSucc n =>
    rw [toList_toString_negSucc]
    simp [integer?, splitSign, span_isDigit_toDigits, decimalDigits?_toDigits, ofDigits_toDigits,
      withSign]
    omega

/-! ## Scalars -/

/-- A run of characters up to the end of a line is read as a whole. -/
theorem scalar_of_run {run : List Char} (hrun : ∀ c ∈ run, isScalarChar c) (offset : Nat)
    (rest : List Char) : ∃ span next, scalar { offset, rest := run ++ '\n' :: rest } =
      (scalarNode? span run).map fun node => (node, { offset := next, rest := '\n' :: rest }) := by
  have hend : ∀ c ∈ ('\n' :: rest).head?, isScalarChar c = false := by
    rintro c ⟨⟩
    decide
  have htake := Cursor.takeWhile_append hrun hend offset
  let next : Cursor := { offset := offset + byteLength run, rest := '\n' :: rest }
  refine ⟨Cursor.spanTo { offset, rest := run ++ '\n' :: rest } next, next.offset, ?_⟩
  have hscalarRun : scalarRun { offset, rest := run ++ '\n' :: rest } = (run, next) := by
    simp [scalarRun, htake, next]
  simp only [scalar, hscalarRun]
  cases scalarNode? (Cursor.spanTo { offset, rest := run ++ '\n' :: rest } next) run <;> rfl

theorem isScalarChar_of_isDigit {c : Char} (hc : c.isDigit) : isScalarChar c := by
  have hends : scalarEnds.all (fun e => !e.isDigit) = true := by decide
  rw [isScalarChar, Bool.not_eq_true', ← Bool.not_eq_true, List.contains_iff_mem]
  intro hmem
  have hnot : (!c.isDigit) = true := List.all_eq_true.mp hends c hmem
  rw [hc] at hnot
  cases hnot

/-- A numeral consists of digits and a minus sign. -/
theorem isDigit_or_minus_of_mem_toString {n : Int} {c : Char} (hc : c ∈ (toString n).toList) :
    c.isDigit = true ∨ c = '-' := by
  cases n with
  | ofNat n =>
    rw [Int.ofNat_eq_natCast, toList_toString_natCast] at hc
    exact .inl (isDigit_of_mem_toDigits hc)
  | negSucc n =>
    rw [toList_toString_negSucc, List.mem_cons] at hc
    rcases hc with rfl | hc
    · exact .inr rfl
    · exact .inl (isDigit_of_mem_toDigits hc)

theorem isScalarChar_of_mem_toString {n : Int} {c : Char} (hc : c ∈ (toString n).toList) :
    isScalarChar c := by
  rcases isDigit_or_minus_of_mem_toString hc with hdigit | rfl
  · exact isScalarChar_of_isDigit hdigit
  · decide

theorem toString_ne_nil (n : Int) : (toString n).toList ≠ [] := by
  cases n with
  | ofNat n =>
    rw [Int.ofNat_eq_natCast, toList_toString_natCast]
    exact Nat.toDigits_ne_nil
  | negSucc n =>
    rw [toList_toString_negSucc]
    exact List.cons_ne_nil _ _

/-- A numeral starts with a digit or a minus sign. -/
theorem exists_toString_eq_cons (n : Int) :
    ∃ c cs, (toString n).toList = c :: cs ∧ (c.isDigit = true ∨ c = '-') := by
  obtain ⟨c, cs, hcs⟩ := List.exists_cons_of_ne_nil (toString_ne_nil n)
  exact ⟨c, cs, hcs, isDigit_or_minus_of_mem_toString (hcs ▸ List.mem_cons_self)⟩

theorem toString_ne_cons (n : Int) {c : Char} (hc : c.isDigit = false ∧ c ≠ '-') (cs : List Char) :
    (toString n).toList ≠ c :: cs := by
  intro h
  rcases isDigit_or_minus_of_mem_toString (h ▸ List.mem_cons_self) with hdigit | hminus
  · exact absurd (hc.1.symm.trans hdigit) (by decide)
  · exact hc.2 hminus

/-- An integer is read back. -/
theorem scalar_takes_integer (n : Int) (rest : List Char) :
    Reader.Takes scalar (toString n).toList ('\n' :: rest)
      fun node => ∃ span, node = .integer span (some n) := by
  intro offset
  obtain ⟨span, next, hscalar⟩ :=
    scalar_of_run (fun c hc => isScalarChar_of_mem_toString hc) offset rest
  have htrue : (toString n).toList ≠ ['t', 'r', 'u', 'e'] :=
    toString_ne_cons n (by decide) _
  have hfalse : (toString n).toList ≠ ['f', 'a', 'l', 's', 'e'] :=
    toString_ne_cons n (by decide) _
  refine ⟨.integer span (some n), next, ?_, span, rfl⟩
  rw [hscalar, scalarNode?, if_neg (by simpa using htrue), if_neg (by simpa using hfalse),
    integer?_toString, Option.map_some]

/-- A truth value is read back. -/
theorem scalar_takes_boolean (b : Bool) (rest : List Char) :
    Reader.Takes scalar (toString b).toList ('\n' :: rest)
      fun node => ∃ span, node = .boolean span b := by
  intro offset
  have hall : (toString b).toList.all isScalarChar = true := by cases b <;> decide
  have hrun : ∀ c ∈ (toString b).toList, isScalarChar c := List.all_eq_true.mp hall
  obtain ⟨span, next, hscalar⟩ := scalar_of_run hrun offset rest
  refine ⟨.boolean span b, next, ?_, span, rfl⟩
  rw [hscalar]
  cases b <;> rfl

end Bindery.Document

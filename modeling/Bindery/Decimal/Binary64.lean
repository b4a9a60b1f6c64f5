/-!
# The binary64 format

Numbers with a significand of 53 bits, and the one nearest to a given positive ratio. All arithmetic
is exact.

## Main definitions

* `Binary64`: a positive number of the format
* `Binary64.nearest?`: the number nearest to a ratio, a tie going to the even significand
-/

namespace Bindery.Decimal

/-- A number of the format that is not negative: `significand` times two to the `exponent`. -/
structure Binary64 where
  /-- At most 53 bits. -/
  significand : Nat
  /-- From -1074 to 971. -/
  exponent : Int
  deriving DecidableEq, Repr, Inhabited

namespace Binary64

/-- The least exponent. -/
def minExponent : Int := -1074

/-- The greatest exponent. -/
def maxExponent : Int := 971

/-- The least significand of 53 bits. -/
def leastFull : Nat := 4503599627370496

/-- The integer nearest to `num / den`, a tie going to the even one. -/
def roundHalfEven (num den : Nat) : Nat :=
  let quotient := num / den
  let twice := 2 * (num % den)
  if twice > den ∨ (twice = den ∧ quotient % 2 = 1) then quotient + 1 else quotient

/-- The ratio `num / den` divided by two to the `exponent`. -/
def scale (num den : Nat) (exponent : Int) : Nat × Nat :=
  if exponent ≤ 0 then (num * Nat.pow 2 (-exponent).toNat, den)
  else (num, den * Nat.pow 2 exponent.toNat)

/-- The exponent for which the significand of `num / den` has 53 bits, or the least one. -/
def exponentOf (num den : Nat) : Int :=
  let guess : Int := (num.log2 : Int) - (den.log2 : Int) - 52
  let (n, d) := scale num den guess
  let exponent := if n < leastFull * d then guess - 1 else guess
  if exponent < minExponent then minExponent else exponent

/-- The number nearest to the positive ratio `num / den`; none if it is too large. -/
def nearest? (num den : Nat) : Option Binary64 :=
  let exponent := exponentOf num den
  let (n, d) := scale num den exponent
  let significand := roundHalfEven n d
  let (significand, exponent) :=
    if significand = 2 * leastFull then (leastFull, exponent + 1) else (significand, exponent)
  if exponent > maxExponent then none else some { significand, exponent }

end Binary64

end Bindery.Decimal

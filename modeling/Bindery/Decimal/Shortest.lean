import Bindery.Decimal.Basic
import Bindery.Decimal.Binary64

/-!
# Shortest decimal text

The decimal text of a binary64 number with the fewest digits that read back as the number; among
those the nearest, and of two equally near the greater. The text is positional whatever the size,
and always has a fraction.

## Main definitions

* `Binary64.shortest`: the digits and the power of ten
* `Literal.shortestText?`: the text of a numeral after rounding to binary64
-/

namespace Bindery.Decimal

namespace Binary64

/-- Twice the distances to the ends of the interval of reals that round to the number, and twice the
number, all as multiples of a common unit `1 / den`: below, number, above. -/
def interval (x : Binary64) : Nat × Nat × Nat × Nat :=
  let (num, den) : Nat × Nat :=
    if x.exponent ≥ 0 then (x.significand * Nat.pow 2 x.exponent.toNat, 1)
    else (x.significand, Nat.pow 2 (-x.exponent).toNat)
  let unit := if x.exponent ≥ 0 then Nat.pow 2 x.exponent.toNat else 1
  -- in quarters of the last place, since the gap below a power of two is half as wide
  let below := if x.significand = leastFull ∧ x.exponent > minExponent then unit else 2 * unit
  (4 * num - below, 4 * num, 4 * num + 2 * unit, 4 * den)

/-- Whether the number `num / den` lies between the ends of the interval; an even significand takes
the ends in. -/
def covers (x : Binary64) (num den : Nat) : Bool :=
  let (low, _, high, unit) := x.interval
  let n := num * unit
  if x.significand % 2 = 0 then low * den ≤ n && n ≤ high * den
  else low * den < n && n < high * den

/-- The power of ten of the first digit of `num / den`, searched downwards from `k`. -/
def leadingPower (num den : Nat) : (fuel : Nat) → Int → Int
  | 0, k => k
  | fuel + 1, k =>
    let reached :=
      if k ≥ 0 then den * Nat.pow 10 k.toNat ≤ num else den ≤ num * Nat.pow 10 (-k).toNat
    if reached then k else leadingPower num den fuel (k - 1)

/-- The better of the two neighbours of the number among the multiples of ten to the `power`, if one
of them reads back. -/
def candidate? (x : Binary64) (power : Int) : Option Nat :=
  let (_, num, _, den) := x.interval
  let up := if power ≥ 0 then Nat.pow 10 power.toNat else 1
  let down := if power ≥ 0 then 1 else Nat.pow 10 (-power).toNat
  -- the number is `num * down / (den * up)` units of the grid
  let lower := num * down / (den * up)
  let rest := num * down % (den * up)
  let lowerHits := x.covers (lower * up) down
  let upperHits := x.covers ((lower + 1) * up) down
  if lowerHits && upperHits then some (if 2 * rest ≥ den * up then lower + 1 else lower)
  else if lowerHits then some lower
  else if upperHits then some (lower + 1)
  else none

/-- The first grid, from coarse to fine, with a number that reads back. -/
def search (x : Binary64) : (fuel : Nat) → Int → Nat × Int
  | 0, power => ((x.candidate? power).getD 0, power)
  | fuel + 1, power =>
    match x.candidate? power with
    | some digits => (digits, power)
    | none => search x fuel (power - 1)

/-- The shortest digits that read back, and the power of ten of the last one. A number just below a
power of ten can have that power as its neighbour on the first grid; its ten units are one of the
next coarser grid. -/
def shortest (x : Binary64) : Nat × Int :=
  if x.significand = 0 then (0, 0)
  else
    let (_, num, _, den) := x.interval
    let (digits, power) := x.search 17 (leadingPower num den 640 310)
    if digits = 10 then (1, power + 1) else (digits, power)

end Binary64

/-- The positional text of `digits` times ten to the `power`, always with a fraction. -/
def positional (digits : Nat) (power : Int) : String :=
  let cs := Nat.toDigits 10 digits
  if power ≥ 0 then String.ofList (cs ++ List.replicate power.toNat '0') ++ ".0"
  else
    let places := (-power).toNat
    let padded := List.replicate (places + 1 - cs.length) '0' ++ cs
    let whole := padded.take (padded.length - places)
    String.ofList whole ++ "." ++ String.ofList (padded.drop (padded.length - places))

/-- The binary64 number nearest to a numeral without its sign; none if it is too large. Numerals far
outside the range of the format are decided by their number of digits alone. -/
def nearestOf? (digits : Nat) (exponent : Int) : Option Binary64 :=
  let magnitude : Int := ((Nat.toDigits 10 digits).length : Int) + exponent
  if digits = 0 ∨ magnitude < -400 then some { significand := 0, exponent := 0 }
  else if magnitude > 400 then none
  else if exponent ≥ 0 then Binary64.nearest? (digits * Nat.pow 10 exponent.toNat) 1
  else Binary64.nearest? digits (Nat.pow 10 (-exponent).toNat)

namespace Literal

/-- The text of a numeral after rounding to binary64; none if the number is too large. -/
def shortestText? : Literal → Option String
  | nan => some "NaN"
  | infinity negative => some (if negative then "-inf" else "inf")
  | finite negative digits exponent => do
    let x ← nearestOf? digits exponent
    let (ds, power) := x.shortest
    return (if negative then "-" else "") ++ positional ds power

end Literal

end Bindery.Decimal

/-!
# Decimal numerals

Numbers as they are written, exact and of any size.
-/

namespace Bindery.Decimal

/-- A number written in decimal, or one of the texts for values that are no numbers. -/
inductive Literal where
  /-- A number: `digits` times ten to the `exponent`. -/
  | finite (negative : Bool) (digits : Nat) (exponent : Int)
  /-- Infinity. -/
  | infinity (negative : Bool)
  /-- No number. -/
  | nan
  deriving DecidableEq, Repr, Inhabited

/-- Whether `c` is a hexadecimal digit. -/
def isHexDigit (c : Char) : Bool :=
  c.isDigit || ('a' ≤ c && c ≤ 'f') || ('A' ≤ c && c ≤ 'F')

/-- The value of digits in a base, the most significant first; other characters count as zero. -/
def ofDigits (base : Nat) (cs : List Char) : Nat :=
  cs.foldl (fun n c => base * n + digitValue c) 0
where
  /-- The value of a digit of base 16 or less. -/
  digitValue (c : Char) : Nat :=
    if c.isDigit then c.toNat - 48
    else if 'a' ≤ c ∧ c ≤ 'f' then c.toNat - 87
    else if 'A' ≤ c ∧ c ≤ 'F' then c.toNat - 55
    else 0

end Bindery.Decimal

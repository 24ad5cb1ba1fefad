/-
# Rounding to the nearest number

Every operation here is an exact quotient of natural numbers, rounded once: to the nearest
magnitude, and from the middle of two to the one of even rank. `nearestRank` finds the block in
which the quotient lies from its binary length, counts whole steps of that block and rounds the
rest, so a quotient that rounds up to the end of its block becomes the first rank of the next.
The result is not cut off at `rankLimit`: whether it overflows is for the caller to ask.
-/
import EvaluationBrowser.Binary64.Basic

namespace EvaluationBrowser.Binary64

/-- The quotient rounded to a whole number, from the middle to the even one. -/
def roundDiv (num den : Nat) : Nat :=
  let quotient := num / den
  let rest := num % den
  if 2 * rest < den then quotient
  else if den < 2 * rest then quotient + 1
  else quotient + quotient % 2

/-- The rank of the magnitude nearest to `num / den`. -/
def nearestRank (num den : Nat) : Nat :=
  let scaled := num * 2 ^ 1074
  let block := Nat.log2 (scaled / den) - 52
  block * 2 ^ 52 + roundDiv scaled (den * 2 ^ block)

/-! ## Products, quotients and powers of ten

Both operands of a product count units, so the product counts units of 2⁻²¹⁴⁸. In a quotient the
units cancel. A power of ten is itself a rounded number. -/

def productRank (a b : Nat) : Nat := nearestRank (units a * units b) (2 ^ 2148)

def quotientRank (a b : Nat) : Nat := nearestRank (units a) (units b)

def tenRank (exponent : Nat) : Nat := nearestRank (10 ^ exponent) 1

/-- The number nearest to `coefficient * 10 ^ exponent`. Beyond 400 places either way it is
infinite or zero, whatever the coefficient's digits, so no larger power of ten is ever formed. -/
def ofDecimal (negative : Bool) (coefficient : Nat) (exponent : Int) : Binary64 :=
  if coefficient = 0 then ofRank negative 0
  else if 400 < exponent then .infinite negative
  else if exponent + (Nat.toDigits 10 coefficient).length < -400 then ofRank negative 0
  else ofRank negative
    (nearestRank (coefficient * 10 ^ exponent.toNat) (10 ^ (-exponent).toNat))

/-- One is the first rank of the block in which steps are 2⁻⁵². -/
example : nearestRank 1 1 = 1023 * 2 ^ 52 := by decide +kernel

/-- The largest finite number is the last rank, and twice it is past the limit. -/
example : nearestRank ((2 ^ 53 - 1) * 2 ^ 971) 1 + 1 = rankLimit ∧
    rankLimit ≤ nearestRank ((2 ^ 53 - 1) * 2 ^ 972) 1 := by decide +kernel

/-- Half of the least positive number is in the middle and goes to zero, which is even. -/
example : nearestRank 1 (2 ^ 1075) = 0 ∧ nearestRank 3 (2 ^ 1075) = 2 := by decide +kernel

end EvaluationBrowser.Binary64

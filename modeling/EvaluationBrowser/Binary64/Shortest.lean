/-
# Shortest decimals

The shortest decimal of a positive magnitude is the decimal with the fewest digits that reads back
as it, and among those with equally few the one nearest to it. It is looked for on one grid of
decimals after another, from one digit to seventeen: on the grid of multiples of 10ᵏ only the two
neighbours of the magnitude can be nearest, so each grid asks two questions. Seventeen digits
always suffice.

Two neighbours can be equally near. The format that asks says which of them it takes.
-/
import EvaluationBrowser.Binary64.Rounding

namespace EvaluationBrowser

/-- The number `coefficient * 10 ^ exponent`. -/
structure Decimal where
  coefficient : Nat
  exponent : Int
  deriving DecidableEq

/-- Which of two equally near neighbours is taken. -/
inductive Tie where
  | upper
  | even
  deriving DecidableEq

/-- The neighbour that is taken: one that reads back, and the nearer one if both do. The order says
how the way to the lower one compares with the way to the upper one. -/
def Tie.choose (tie : Tie) (lowerReads upperReads : Bool) (order : Ordering)
    (lower upper : Decimal) : Option Decimal :=
  match lowerReads, upperReads with
  | false, false => none
  | true, false => some lower
  | false, true => some upper
  | true, true =>
    match order, tie with
    | .lt, _ => some lower
    | .gt, _ => some upper
    | .eq, .upper => some upper
    | .eq, .even => some (if lower.coefficient % 2 = 0 then lower else upper)

namespace Binary64

/-- The rank that a decimal reads back as. -/
def rankOfDecimal (d : Decimal) : Nat :=
  nearestRank (d.coefficient * 10 ^ d.exponent.toNat) (10 ^ (-d.exponent).toNat)

/-- The exponent of the first digit of a positive magnitude. The least magnitude is above
10⁻³²⁴, so scaled by 10³²⁴ every magnitude has a whole part, with one digit for each place. -/
def leadingExponent (rank : Nat) : Int :=
  let scaled := units rank * 10 ^ 324 / 2 ^ 1074
  (Nat.toDigits 10 scaled).length - 325

/-- The neighbour of the magnitude that is taken on the multiples of `10 ^ exponent`. -/
def onGrid? (tie : Tie) (rank : Nat) (exponent : Int) : Option Decimal :=
  let num := units rank * 10 ^ (-exponent).toNat
  let den := 2 ^ 1074 * 10 ^ exponent.toNat
  let lower : Decimal := ⟨num / den, exponent⟩
  let upper : Decimal := ⟨num / den + 1, exponent⟩
  tie.choose (rankOfDecimal lower == rank) (rankOfDecimal upper == rank)
    (compare (2 * (num % den)) den) lower upper

def shortest (tie : Tie) (rank : Nat) : Decimal :=
  let lead := leadingExponent rank
  ((List.range 17).findSome? fun (n : Nat) => onGrid? tie rank (lead - n)).getD ⟨0, 0⟩

end Binary64

end EvaluationBrowser

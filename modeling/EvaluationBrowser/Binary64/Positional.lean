/-
# Positional notation

A number is shown to people by its shortest digits in their places, however many zeros that takes,
with no exponent and no point after a whole number: `1000`, `0.5`, `0.0000001`, `-0`. Of two
equally near digit strings the larger is shown.

The digits are first laid out as a whole part, never empty, and a fraction, empty for a whole
number. Formats that add a point or an exponent start from the same layout.
-/
import EvaluationBrowser.Binary64.Shortest
import EvaluationBrowser.Text.Ends

namespace EvaluationBrowser

/-- The digits of a decimal, without the zeros at their end. -/
def Decimal.digits (d : Decimal) : List Char :=
  Text.dropTrailing (· == '0') (Nat.toDigits 10 d.coefficient)

/-- How many digits stand before the point; not above zero for a decimal below one. -/
def Decimal.point (d : Decimal) : Int :=
  (Nat.toDigits 10 d.coefficient).length + d.exponent

structure Layout where
  whole : List Char
  fraction : List Char
  deriving DecidableEq

/-- Digits with the point after the first `point` of them, filled up with zeros on either side. -/
def Layout.place (digits : List Char) (point : Int) : Layout :=
  if point ≤ 0 then ⟨['0'], List.replicate (-point).toNat '0' ++ digits⟩
  else
    let before := digits.take point.toNat
    ⟨before ++ List.replicate (point.toNat - before.length) '0', digits.drop point.toNat⟩

def Decimal.layout (d : Decimal) : Layout := Layout.place d.digits d.point

namespace Binary64

/-- The whole part and the fraction of a magnitude. -/
def layout (tie : Tie) (rank : Nat) : Layout :=
  if rank = 0 then ⟨['0'], []⟩ else (shortest tie rank).layout

def signed (negative : Bool) (text : List Char) : List Char :=
  if negative then '-' :: text else text

def positionalChars : Binary64 → List Char
  | .nan => ['N', 'a', 'N']
  | .infinite negative => signed negative ['i', 'n', 'f']
  | .finite negative rank =>
    let l := layout .upper rank
    signed negative (if l.fraction.isEmpty then l.whole else l.whole ++ '.' :: l.fraction)

/-- The number as people see it. -/
def positional (x : Binary64) : String := String.ofList x.positionalChars

example : (ofDecimal false 5 (-1)).positionalChars = ['0', '.', '5'] := by decide +kernel

example : (ofDecimal false 1000 0).positionalChars = ['1', '0', '0', '0'] := by decide +kernel

example : (ofRank true 0).positionalChars = ['-', '0'] := by decide +kernel

end Binary64

end EvaluationBrowser

/-
# Reading a decimal

A number is spelt with an optional sign, digits, an optional fraction and an optional exponent, or
by the names that positional notation has for NaN and the infinities. It is the number nearest to
the decimal spelt.
-/
import EvaluationBrowser.Binary64.Positional
import EvaluationBrowser.Text.Digit

namespace EvaluationBrowser.Binary64

/-- The natural number of some digits. -/
def digitsValue (digits : List Char) : Nat :=
  digits.foldl (fun n d => n * 10 + Text.digitValue d) 0

/-- A sign, if there is one, and what is left. -/
def splitSign : List Char → Bool × List Char
  | '-' :: rest => (true, rest)
  | '+' :: rest => (false, rest)
  | rest => (false, rest)

def exponent? : List Char → Option Int
  | [] => some 0
  | c :: rest =>
    let (negative, digits) := splitSign rest
    if (c = 'e' ∨ c = 'E') ∧ digits ≠ [] ∧ digits.all Char.isDigit then
      some (if negative then -digitsValue digits else digitsValue digits)
    else none

def splitFraction : List Char → List Char × List Char
  | '.' :: rest => (rest.takeWhile Char.isDigit, rest.dropWhile Char.isDigit)
  | rest => ([], rest)

def unsigned? (negative : Bool) (cs : List Char) : Option Binary64 :=
  if cs = ['N', 'a', 'N'] then some .nan
  else if cs = ['i', 'n', 'f'] then some (.infinite negative)
  else
    let whole := cs.takeWhile Char.isDigit
    let (fraction, rest) := splitFraction (cs.dropWhile Char.isDigit)
    if whole.isEmpty && fraction.isEmpty then none
    else
      (exponent? rest).map fun exponent =>
        ofDecimal negative (digitsValue (whole ++ fraction)) (exponent - fraction.length)

/-- The number that a text spells. -/
def ofString? (s : String) : Option Binary64 :=
  let (negative, cs) := splitSign s.toList
  unsigned? negative cs

end EvaluationBrowser.Binary64

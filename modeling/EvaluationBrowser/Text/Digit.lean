/-
# Digits

The value of a digit. Decimal digits are the ten of ASCII, and what value another character has as
one is never asked; a hexadecimal digit may be a letter in either case.
-/

namespace EvaluationBrowser.Text

/-- The value of a decimal digit. -/
def digitValue (c : Char) : Nat := c.toNat - '0'.toNat

/-- The value of a hexadecimal digit. -/
def hexDigit? (c : Char) : Option Nat :=
  if c.isDigit then some (digitValue c)
  else if 'a' ≤ c ∧ c ≤ 'f' then some (c.toNat - 'a'.toNat + 10)
  else if 'A' ≤ c ∧ c ≤ 'F' then some (c.toNat - 'A'.toNat + 10)
  else none

end EvaluationBrowser.Text

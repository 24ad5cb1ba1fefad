/-
# Number literals

A number in a JSON text is kept as it is spelt: an optional minus sign, whole digits, an optional
fraction and an optional exponent. What number it stands for is a second question, answered by
`Literal.number?`, and what literal a number is written as is a third, answered by
`Literal.ofBinary64?`.
-/
import EvaluationBrowser.Binary64.Positional
import EvaluationBrowser.Text.Digit

namespace EvaluationBrowser.Json

inductive ExponentSign where
  | absent
  | plus
  | minus
  deriving DecidableEq

structure Exponent where
  capital : Bool
  sign : ExponentSign
  digits : List Char
  deriving DecidableEq

structure Literal where
  negative : Bool
  whole : List Char
  fraction : Option (List Char)
  exponent : Option Exponent
  deriving DecidableEq

def Exponent.chars (e : Exponent) : List Char :=
  (if e.capital then 'E' else 'e') ::
    ((match e.sign with
      | .absent => []
      | .plus => ['+']
      | .minus => ['-']) ++ e.digits)

/-- The literal as it is spelt. -/
def Literal.chars (l : Literal) : List Char :=
  Binary64.signed l.negative
    (l.whole ++ (l.fraction.elim [] ('.' :: ·) ++ l.exponent.elim [] Exponent.chars))

/-! ## The number that a literal stands for

A literal without fraction and exponent is an integer, if 64 bits hold it with or without a sign;
`-0` is no integer, because it keeps its sign.

Every other literal is a floating-point number. Its digits, those of the whole part and then those
of the fraction, are gathered into a coefficient for as long as the coefficient stays below 2⁶⁴.
Whole digits that no longer fit count as places, and a fraction is left at its first digit that
does not fit. The coefficient is then rounded to a floating-point number, and that number is
multiplied or divided by the rounded power of ten, which rounds a second time. So the result is
near the decimal that the literal spells, but not always the nearest. -/

inductive Number where
  | integer (value : Int)
  | real (value : Binary64)
  deriving DecidableEq

/-- Digits appended to a number for as long as it stays below the limit, and the digits left. -/
def gather (limit : Nat) : Nat → List Char → Nat × List Char
  | n, [] => (n, [])
  | n, d :: ds =>
    if n * 10 + Text.digitValue d < limit then gather limit (n * 10 + Text.digitValue d) ds
    else (n, d :: ds)

/-- A rounded number divided by a power of ten, at most 308 places at a time: each step rounds. -/
def scaleDown (rank places : Nat) : Nat :=
  if places ≤ 308 then Binary64.quotientRank rank (Binary64.tenRank places)
  else if rank = 0 then 0
  else scaleDown (Binary64.quotientRank rank (Binary64.tenRank 308)) (places - 308)
termination_by places

/-- The rank of a coefficient times a power of ten; none if it is out of range. -/
def scale? (coefficient : Nat) (places : Int) : Option Nat :=
  let rank := Binary64.nearestRank coefficient 1
  if places < 0 then some (scaleDown rank (-places).toNat)
  else if coefficient = 0 then some 0
  else if 308 < places then none
  else
    let product := Binary64.productRank rank (Binary64.tenRank places.toNat)
    if product < Binary64.rankLimit then some product else none

/-- The exponent of a literal, and the digits left when it stops fitting 31 bits. -/
def Exponent.value (e : Exponent) : Int × List Char :=
  let (n, rest) := gather (2 ^ 31) 0 e.digits
  (if e.sign = .minus then -n else n, rest)

/-- The number of a literal. Where it is out of range, the characters of the literal that had not
been looked at when that was known. -/
def Literal.number (l : Literal) : Except (List Char) Number :=
  let (whole, unfit) := gather (2 ^ 64) 0 l.whole
  if l.fraction.isNone && l.exponent.isNone && unfit.isEmpty &&
      !(l.negative && (whole == 0 || decide (2 ^ 63 < whole))) then
    .ok (.integer (if l.negative then -whole else whole))
  else
    let fraction := l.fraction.getD []
    let (coefficient, dropped) := gather (2 ^ 64) whole fraction
    let places : Int := unfit.length - (fraction.length - dropped.length : Nat)
    let (exponent, unread) := (l.exponent.map Exponent.value).getD (0, [])
    match unread with
    | [] =>
      match scale? coefficient (places + exponent) with
      | some rank => .ok (.real (Binary64.ofRank l.negative rank))
      | none => .error []
    | _ :: unread =>
      if coefficient = 0 ∨ (l.exponent.map Exponent.sign) = some .minus then
        .ok (.real (Binary64.ofRank l.negative 0))
      else .error unread

/-- The floating-point number nearest to the one that was read. -/
def Number.toBinary64 : Number → Binary64
  | .integer value => Binary64.ofRank (decide (value < 0)) (Binary64.nearestRank value.natAbs 1)
  | .real value => value

/-! ## The literal that a number is written as

The shortest digits, an even last digit deciding between two equally near ones. From 10⁻⁵ to below
10¹⁶ they stand in their places, and a whole number keeps a zero after the point; outside that they
are written with one digit before the point and a signed exponent. Infinities and NaN have no
literal. -/

def Literal.ofDecimal (negative : Bool) (d : Decimal) : Literal :=
  let lead := d.point - 1
  if -5 ≤ lead ∧ lead ≤ 15 then
    let l := d.layout
    ⟨negative, l.whole, some (if l.fraction.isEmpty then ['0'] else l.fraction), none⟩
  else
    let fraction := d.digits.drop 1
    ⟨negative, d.digits.take 1, if fraction.isEmpty then none else some fraction,
      some ⟨false, if lead < 0 then .minus else .plus, Nat.toDigits 10 lead.natAbs⟩⟩

def Literal.ofMagnitude (negative : Bool) (rank : Nat) : Literal :=
  if rank = 0 then ⟨negative, ['0'], some ['0'], none⟩
  else .ofDecimal negative (Binary64.shortest .even rank)

def Literal.ofBinary64? : Binary64 → Option Literal
  | .finite negative rank => some (.ofMagnitude negative rank)
  | _ => none

def Literal.ofNat (n : Nat) : Literal := ⟨false, Nat.toDigits 10 n, none, none⟩

example : (Literal.ofMagnitude false (Binary64.nearestRank 1000 1)).chars =
    ['1', '0', '0', '0', '.', '0'] := by decide +kernel

example : (Literal.ofMagnitude true (Binary64.nearestRank (10 ^ 16) 1)).chars =
    ['-', '1', 'e', '+', '1', '6'] := by decide +kernel

end EvaluationBrowser.Json

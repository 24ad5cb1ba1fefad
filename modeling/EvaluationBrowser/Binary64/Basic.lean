/-
# Binary floating-point numbers of 64 bits

A finite number is a sign and a *rank*: the magnitudes in increasing order, from zero, are numbered
0, 1, 2, …, so the order of magnitudes is the order of their ranks and the next larger magnitude
has the next rank. Every magnitude is a whole number of units of 2⁻¹⁰⁷⁴, and `units` says which:
the first 2⁵³ ranks are their own units, and from there each block of 2⁵² ranks is spaced twice as
wide as the one before. A rank from `rankLimit` on stands for no finite magnitude, and a result
that lands there is infinite.

Signed zeros are apart as numbers and equal in the order. NaN is one value, and compares with
nothing.
-/
import EvaluationBrowser.Power

namespace EvaluationBrowser

namespace Binary64

/-- The number of finite magnitudes: 2047 blocks of 2⁵². -/
def rankLimit : Nat := 2047 * 2 ^ 52

end Binary64

inductive Binary64 where
  | finite (negative : Bool) (rank : Fin Binary64.rankLimit)
  | infinite (negative : Bool)
  | nan
  deriving DecidableEq

namespace Binary64

/-- The number of a sign and a rank; past the last finite magnitude, infinity. -/
def ofRank (negative : Bool) (rank : Nat) : Binary64 :=
  if h : rank < rankLimit then .finite negative ⟨rank, h⟩ else .infinite negative

/-- The magnitude of a rank, in units of 2⁻¹⁰⁷⁴. -/
def units (rank : Nat) : Nat :=
  if rank < 2 ^ 53 then rank else (2 ^ 52 + rank % 2 ^ 52) * 2 ^ (rank / 2 ^ 52 - 1)

def isFinite : Binary64 → Bool
  | .finite .. => true
  | _ => false

/-! ## Order

A number that is not NaN has a place on the line of integers: its rank, with its sign, the
infinities just outside the finite numbers. Both zeros have place 0. -/

def place? : Binary64 → Option Int
  | .finite negative rank => some (if negative then -rank.val else rank.val)
  | .infinite negative => some (if negative then -rankLimit else rankLimit)
  | .nan => none

/-- The order of two numbers; none where one of them is NaN. -/
def compare? (x y : Binary64) : Option Ordering :=
  match x.place?, y.place? with
  | some a, some b => some (compare a b)
  | _, _ => none

/-- Strictly less. Never so for NaN. -/
def isLess (x y : Binary64) : Bool := x.compare? y == some .lt

def zero : Binary64 := ofRank false 0

/-- A negative zero is not below zero. -/
example : (ofRank true 0).isLess zero = false := by decide +kernel

example : nan.compare? nan = none := rfl

end Binary64

end EvaluationBrowser

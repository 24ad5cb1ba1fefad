/-
# Sets of code points

A property of characters that no short rule gives (blank, cased, invisible) is a set of code
points. Such a set is written by its *edges*: the code points, in increasing order, at which
membership changes, starting from outside. A code point belongs to the set iff an odd number of
edges lie at or below it, so a list of edges needs no pairing and no sentinel: the set
`{a, …, b}` is `[a, b + 1]`, and an odd number of edges leaves the last range open.
-/

namespace EvaluationBrowser.Text

/-- Membership of a code point in the set with the given edges. The first edge above it ends the
search, because the edges increase. -/
def within : List Nat → Nat → Bool
  | [], _ => false
  | edge :: edges, n => decide (edge ≤ n) && !within edges n

end EvaluationBrowser.Text

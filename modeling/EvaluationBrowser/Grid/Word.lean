/-
# Paging in machine words

A page counts with natural numbers, and a machine with words of 64 bits. Here are the steps of
paging with every sum, difference and product asked to be a word, in the order in which a machine
takes them: a step that has no result is one that would wrap. Taking one away stops at zero where
`shownPage`, `setPage` and `previousPage` do it, so nothing is asked there.
-/
import EvaluationBrowser.Grid.Page

namespace EvaluationBrowser.Grid

/-- The result of a sum, a difference or a product, if it is a word. -/
def word? (exact : Int) : Option Nat :=
  if 0 ≤ exact ∧ exact < (2 ^ 64 : Nat) then some exact.toNat else none

section Word

variable {a b : Nat}

theorem word?_natCast (small : a < 2 ^ 64) : word? a = some a :=
  if_pos ⟨Int.natCast_nonneg a, Int.ofNat_lt.mpr small⟩

theorem word?_add (small : a + b < 2 ^ 64) : word? (a + b) = some (a + b) := by
  rw [← Int.natCast_add]
  exact word?_natCast small

theorem word?_succ (small : a + 1 < 2 ^ 64) : word? (a + 1) = some (a + 1) := word?_add small

theorem word?_mul (small : a * b < 2 ^ 64) : word? (a * b) = some (a * b) := by
  rw [← Int.natCast_mul]
  exact word?_natCast small

theorem word?_pred (pos : 0 < a) (small : a < 2 ^ 64) : word? (a - 1) = some (a - 1) := by
  have pred : (a : Int) - 1 = ((a - 1 : Nat) : Int) := by omega
  rw [pred]
  exact word?_natCast (Nat.lt_of_le_of_lt (Nat.sub_le a 1) small)

end Word

/-- Full pages, and one more for what is left over. -/
def pageCount? (totalRows : Nat) : Option Nat := do
  let full := totalRows / pageSize
  let count ← if totalRows % pageSize = 0 then some full else word? (full + 1)
  some (max count 1)

def State.view? (s : State) (settings : List Setting) : Option Page := do
  let shown := s.shownSettings settings
  let totalRows ← word? shown.length
  let count ← pageCount? totalRows
  let number := s.shownPage count
  let start ← word? (number * pageSize)
  let columns := s.visibleColumns
  some
    { columns
      rows := ((shown.drop start).take pageSize).map (State.row columns)
      number
      pageCount := count
      totalRows }

def State.nextPage? (s : State) (pageCount : Nat) : Option State := do
  let next ← word? (s.shownPage pageCount + 1)
  some (s.setPage next pageCount)

def Page.hasNext? (p : Page) : Option Bool := do
  let next ← word? (p.number + 1)
  some (decide (next < p.pageCount))

def Page.rangeLabel? (p : Page) : Option String :=
  if p.totalRows = 0 then some "0–0 of 0"
  else do
    let above ← word? (p.number * pageSize)
    let start ← word? (above + 1)
    let behind ← word? (start + p.rows.length)
    let last ← word? (behind - 1)
    some (toString start ++ "–" ++ toString last ++ " of " ++ toString p.totalRows)

end EvaluationBrowser.Grid

/-
# Stable sorting

Elements are inserted one after another, each from the far end: it moves in front of those that it
is strictly less than and stops at the first that it is not. Equal elements therefore keep their
order, whatever the comparison, and reversing the comparison reverses the order of unequal elements
only.

The sorted part is held from its far end, so that inserting recurses on it.
-/

namespace EvaluationBrowser.Grid

variable {α : Type}

/-- Inserts into a list that runs from the greatest element to the least. -/
def insertFromEnd (less : α → α → Bool) (x : α) : List α → List α
  | [] => [x]
  | y :: ys => if less x y then y :: insertFromEnd less x ys else x :: y :: ys

def sortBy (less : α → α → Bool) (xs : List α) : List α :=
  (xs.foldl (fun sorted x => insertFromEnd less x sorted) []).reverse

theorem insertFromEnd_perm (less : α → α → Bool) (x : α) (ys : List α) :
    (insertFromEnd less x ys).Perm (x :: ys) := by
  induction ys with
  | nil => exact .refl _
  | cons y ys ih =>
    unfold insertFromEnd
    split
    · exact (ih.cons y).trans (.swap ..)
    · exact .refl _

/-- Sorting neither loses nor adds anything. -/
theorem sortBy_perm (less : α → α → Bool) (xs : List α) : (sortBy less xs).Perm xs := by
  have fold : ∀ (xs sorted : List α),
      (xs.foldl (fun sorted x => insertFromEnd less x sorted) sorted).Perm (xs ++ sorted) := by
    intro xs
    induction xs with
    | nil => intro sorted; exact .refl _
    | cons x xs ih =>
      intro sorted
      exact (ih _).trans (((insertFromEnd_perm less x sorted).append_left xs).trans
        List.perm_middle)
  have := fold xs []
  rw [List.append_nil] at this
  exact (List.reverse_perm _).trans this

end EvaluationBrowser.Grid

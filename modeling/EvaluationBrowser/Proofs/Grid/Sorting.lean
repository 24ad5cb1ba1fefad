/-
# Sorting is sorted and stable

Where the comparison of the sort is that of a total preorder, of two elements in the sorted list the
first is strictly less or they are equal and the first came first. "Came first" is any relation `P`
that holds between the elements of the given list in their order.

Inserting compares the new element, which came last, with the sorted ones from the far end, and
stops at the first that it is not less than. All that come before that one are at most as great,
by transitivity.
-/
import EvaluationBrowser.Grid.Sorting

namespace EvaluationBrowser.Grid

open Std

variable {α : Type} {less : α → α → Bool} {cmp : α → α → Ordering} {P : α → α → Prop}

/-- The first comes before the second in a stable order. -/
def StablyBefore (cmp : α → α → Ordering) (P : α → α → Prop) (a b : α) : Prop :=
  cmp a b = .lt ∨ cmp a b = .eq ∧ P a b

/-- At most as great and earlier stays so along elements that are at most as great. -/
theorem StablyBefore.trans_isLE [TransCmp cmp] {a b c : α} (ab : StablyBefore cmp P a b)
    (bc : (cmp b c).isLE = true) (earlier : P a c) : StablyBefore cmp P a c := by
  have ac : (cmp a c).isLE = true := by
    rcases ab with lt | ⟨eq, -⟩
    · exact TransCmp.isLE_trans (by rw [lt]; rfl) bc
    · exact TransCmp.isLE_trans (by rw [eq]; rfl) bc
  cases order : cmp a c with
  | lt => exact .inl order
  | eq => exact .inr ⟨order, earlier⟩
  | gt => rw [order] at ac; cases ac

/-- Two elements are in a stable order in one way only. -/
theorem StablyBefore.asymm {a b : α} (swap : cmp b a = (cmp a b).swap) (once : P a b → ¬ P b a)
    (ab : StablyBefore cmp P a b) : ¬ StablyBefore cmp P b a := by
  rw [StablyBefore, swap]
  rcases ab with lt | ⟨eq, earlier⟩
  · rw [lt]
    rintro (gt | ⟨gt, -⟩) <;> cases gt
  · rw [eq]
    rintro (lt | ⟨-, later⟩)
    · cases lt
    · exact once earlier later

/-- The list runs from the last to the first of a stable order. -/
theorem insertFromEnd_pairwise [TransCmp cmp] {x : α} {ys : List α}
    (agrees : ∀ y ∈ ys, less x y = (cmp x y == .lt)) (older : ∀ y ∈ ys, P y x)
    (h : ys.Pairwise fun b a => StablyBefore cmp P a b) :
    (insertFromEnd less x ys).Pairwise fun b a => StablyBefore cmp P a b := by
  induction ys with
  | nil => exact List.pairwise_singleton _ _
  | cons y ys ih =>
      obtain ⟨above, rest⟩ := List.pairwise_cons.mp h
      have agreesRest : ∀ z ∈ ys, less x z = (cmp x z == .lt) :=
        fun z hz => agrees z (List.mem_cons_of_mem _ hz)
      have olderRest : ∀ z ∈ ys, P z x := fun z hz => older z (List.mem_cons_of_mem _ hz)
      unfold insertFromEnd
      rw [agrees y List.mem_cons_self]
      split
      next lt =>
        refine List.pairwise_cons.mpr ⟨?_, ih agreesRest olderRest rest⟩
        intro z hz
        rcases List.mem_cons.mp ((insertFromEnd_perm less x ys).mem_iff.mp hz) with rfl | hz
        · exact .inl (eq_of_beq lt)
        · exact above z hz
      next notLt =>
        have yx : (cmp y x).isLE = true := by
          rw [(OrientedCmp.eq_swap : cmp y x = (cmp x y).swap)]
          cases order : cmp x y with
          | lt => rw [order] at notLt; exact absurd rfl notLt
          | eq => rfl
          | gt => rfl
        refine List.pairwise_cons.mpr ⟨?_, h⟩
        intro z hz
        rcases List.mem_cons.mp hz with rfl | hz
        · cases order : cmp z x with
          | lt => exact .inl order
          | eq => exact .inr ⟨order, older z List.mem_cons_self⟩
          | gt => rw [order] at yx; cases yx
        · exact (above z hz).trans_isLE yx (olderRest z hz)

theorem sortBy_pairwise [TransCmp cmp] {xs : List α}
    (agrees : ∀ x ∈ xs, ∀ y ∈ xs, less x y = (cmp x y == .lt)) (ordered : xs.Pairwise P) :
    (sortBy less xs).Pairwise (StablyBefore cmp P) := by
  have fold : ∀ (rest sorted : List α), sorted ⊆ xs → rest ⊆ xs → rest.Pairwise P →
      (∀ x ∈ rest, ∀ y ∈ sorted, P y x) →
      (sorted.Pairwise fun b a => StablyBefore cmp P a b) →
      (rest.foldl (fun sorted x => insertFromEnd less x sorted) sorted).Pairwise
        fun b a => StablyBefore cmp P a b := by
    intro rest
    induction rest with
    | nil => intro sorted _ _ _ _ h; exact h
    | cons x rest ih =>
        intro sorted sortedSub restSub ordered older h
        obtain ⟨first, ordered⟩ := List.pairwise_cons.mp ordered
        have hx : x ∈ xs := restSub List.mem_cons_self
        have inserted : ∀ y ∈ insertFromEnd less x sorted, y = x ∨ y ∈ sorted :=
          fun y hy => List.mem_cons.mp ((insertFromEnd_perm less x sorted).mem_iff.mp hy)
        refine ih _ ?_ (fun y hy => restSub (List.mem_cons_of_mem _ hy)) ordered ?_ ?_
        · intro y hy
          rcases inserted y hy with rfl | hy
          · exact hx
          · exact sortedSub hy
        · intro z hz y hy
          rcases inserted y hy with rfl | hy
          · exact first z hz
          · exact older z (List.mem_cons_of_mem _ hz) y hy
        · exact insertFromEnd_pairwise (fun y hy => agrees x hx y (sortedSub hy))
            (older x List.mem_cons_self) h
  rw [sortBy, List.pairwise_reverse]
  exact fold xs [] (List.nil_subset _) (List.Subset.refl _) ordered (by intro x _ y hy; cases hy)
    List.Pairwise.nil

end EvaluationBrowser.Grid

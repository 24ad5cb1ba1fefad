/-
# The numbers that are stood for

A finite number stands for its magnitude with its sign, so both zeros stand for 0. Infinities and
NaN stand for no number. The order of finite numbers is that of what they stand for.
-/
import EvaluationBrowser.Proofs.Binary64.Magnitude

namespace EvaluationBrowser.Binary64

def value? : Binary64 → Option ℚ
  | .finite negative rank => some (if negative then -magnitude rank else magnitude rank)
  | .infinite _ => none
  | .nan => none

theorem isFinite_iff {x : Binary64} : x.isFinite = true ↔ ∃ a, x.value? = some a := by
  cases x with
  | finite negative rank => exact ⟨fun _ => ⟨_, rfl⟩, fun _ => rfl⟩
  | infinite negative => exact ⟨fun h => (nomatch h), fun h => h.elim fun _ h => (nomatch h)⟩
  | nan => exact ⟨fun h => (nomatch h), fun h => h.elim fun _ h => (nomatch h)⟩

theorem isFinite_eq_false_iff {x : Binary64} : x.isFinite = false ↔ x.value? = none := by
  rw [← Bool.not_eq_true, isFinite_iff, ← Option.isSome_iff_exists, Bool.not_eq_true,
    Option.isSome_eq_false_iff, Option.isNone_iff_eq_none]

theorem value?_zero : zero.value? = some 0 := congrArg some magnitude_zero

/-- A negative zero stands for 0 as well. -/
theorem value?_negativeZero : (ofRank true 0).value? = some 0 :=
  congrArg some ((congrArg Neg.neg magnitude_zero).trans neg_zero)

/-- Ranks and magnitudes are in the same order, also with their signs. -/
theorem signed_lt_iff (negative negative' : Bool) (a b : Nat) :
    (if negative then -(a : Int) else a) < (if negative' then -(b : Int) else b) ↔
      (if negative then -magnitude a else magnitude a)
        < (if negative' then -magnitude b else magnitude b) := by
  have order (a b : Nat) : (a : Int) < b ↔ magnitude a < magnitude b :=
    Int.ofNat_lt.trans magnitude_strictMono.lt_iff_lt.symm
  have nonnegA := magnitude_nonneg a
  have nonnegB := magnitude_nonneg b
  cases negative with
  | false =>
      cases negative' with
      | false => exact order a b
      | true =>
          simp only [Bool.false_eq_true, if_false, if_true]
          constructor
          · intro lt
            omega
          · intro lt
            linarith
  | true =>
      cases negative' with
      | false =>
          simp only [Bool.false_eq_true, if_false, if_true]
          rcases Nat.eq_zero_or_pos a with rfl | pos
          · have fromZero := order 0 b
            rw [magnitude_zero] at fromZero
            rw [magnitude_zero, Nat.cast_zero, neg_zero, neg_zero]
            exact fromZero
          · have above := magnitude_pos pos
            constructor
            · intro _
              linarith
            · intro _
              omega
      | true => exact neg_lt_neg_iff.trans ((order b a).trans neg_lt_neg_iff.symm)

/-- Finite numbers compare as what they stand for. -/
theorem compare?_of_values {x y : Binary64} {a b : ℚ} (hx : x.value? = some a)
    (hy : y.value? = some b) : x.compare? y = some (compare a b) := by
  cases x with
  | finite negative rank =>
      cases y with
      | finite negative' rank' =>
          cases hx
          cases hy
          have less := signed_lt_iff negative negative' rank rank'
          have greater := signed_lt_iff negative' negative rank' rank
          rw [compare?, place?, place?]
          dsimp only
          refine congrArg some ?_
          cases order : compare (if negative then -magnitude rank else magnitude rank)
              (if negative' then -magnitude rank' else magnitude rank') with
          | lt => exact compare_lt_iff_lt.mpr (less.mpr (compare_lt_iff_lt.mp order))
          | eq =>
              have same := compare_eq_iff_eq.mp order
              refine compare_eq_iff_eq.mpr (le_antisymm ?_ ?_)
              · exact not_lt.mp fun lt => (greater.mp lt).ne same.symm
              · exact not_lt.mp fun lt => (less.mp lt).ne same
          | gt => exact compare_gt_iff_gt.mpr (greater.mpr (compare_gt_iff_gt.mp order))
      | infinite _ => cases hy
      | nan => cases hy
  | infinite _ => cases hx
  | nan => cases hx

theorem isLess_iff_of_values {x y : Binary64} {a b : ℚ} (hx : x.value? = some a)
    (hy : y.value? = some b) : x.isLess y = true ↔ a < b := by
  rw [isLess, compare?_of_values hx hy, beq_iff_eq, Option.some.injEq, compare_lt_iff_lt]

end EvaluationBrowser.Binary64

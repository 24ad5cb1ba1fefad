/-
# Magnitudes and the steps between them

From one magnitude to the next it is a `step`, which is the same within a block and doubles from
block to block. A step is never more than a part of 2⁵² of a magnitude that is not in the first
block, and never less than a part of 2⁵³ of the magnitude that it leads to. All that is said of
rounding comes from these facts: the blocks themselves are not looked at again.
-/
import EvaluationBrowser.Binary64.Rounding
import Mathlib.Algebra.Order.Field.Basic
import Mathlib.Algebra.Order.Field.Rat
import Mathlib.Order.Monotone.Basic
import Mathlib.Tactic.FieldSimp
import Mathlib.Tactic.Linarith
import Mathlib.Tactic.Positivity
import Mathlib.Tactic.Ring

namespace EvaluationBrowser.Binary64

/-! ## Units

A rank is that of a block and of a place in it. In the first block units are ranks. -/

theorem units_of_lt {rank : Nat} (h : rank < 2 ^ 53) : units rank = rank := if_pos h

theorem units_of_place (block : Nat) {place : Nat} (h : place < 2 ^ 52) :
    units ((block + 1) * 2 ^ 52 + place) = (2 ^ 52 + place) * 2 ^ block := by
  have quotient : ((block + 1) * 2 ^ 52 + place) / 2 ^ 52 = block + 1 := by omega
  have rest : ((block + 1) * 2 ^ 52 + place) % 2 ^ 52 = place := by omega
  cases block with
  | zero => rw [units_of_lt (by omega), Nat.pow_zero, Nat.mul_one, Nat.zero_add, Nat.one_mul]
  | succ block => rw [units, if_neg (by omega), quotient, rest, Nat.add_sub_cancel]

/-- Every rank is in the first block or at a place of a later one. -/
theorem exists_place (rank : Nat) :
    rank < 2 ^ 52 ∨ ∃ block place, place < 2 ^ 52 ∧ rank = (block + 1) * 2 ^ 52 + place := by
  by_cases first : rank < 2 ^ 52
  · exact .inl first
  · exact .inr ⟨rank / 2 ^ 52 - 1, rank % 2 ^ 52, by omega, by omega⟩

/-- The units from one magnitude to the next. -/
def gap (rank : Nat) : Nat := 2 ^ (rank / 2 ^ 52 - 1)

theorem gap_pos (rank : Nat) : 0 < gap rank := Nat.two_pow_pos _

theorem gap_of_lt {rank : Nat} (h : rank < 2 ^ 52) : gap rank = 1 := by
  rw [gap, Nat.div_eq_of_lt h, Nat.zero_sub, Nat.pow_zero]

theorem gap_of_place (block : Nat) {place : Nat} (h : place < 2 ^ 52) :
    gap ((block + 1) * 2 ^ 52 + place) = 2 ^ block := by
  have quotient : ((block + 1) * 2 ^ 52 + place) / 2 ^ 52 = block + 1 := by omega
  rw [gap, quotient, Nat.add_sub_cancel]

theorem gap_mono {a b : Nat} (h : a ≤ b) : gap a ≤ gap b :=
  Nat.pow_le_pow_right (by decide) (Nat.sub_le_sub_right (Nat.div_le_div_right h) 1)

theorem units_succ (rank : Nat) : units (rank + 1) = units rank + gap rank := by
  rcases exists_place rank with first | ⟨block, place, h, rfl⟩
  · rw [units_of_lt (by omega), units_of_lt (by omega), gap_of_lt first]
  · rw [units_of_place block h, gap_of_place block h]
    by_cases inside : place + 1 < 2 ^ 52
    · rw [Nat.add_assoc, units_of_place block inside]
      ring
    · -- The next magnitude is the first of the next block.
      have last : (block + 1) * 2 ^ 52 + place + 1 = (block + 1 + 1) * 2 ^ 52 + 0 := by omega
      obtain rfl : place = 2 ^ 52 - 1 := by omega
      rw [last, units_of_place (block + 1) (by decide)]
      ring

theorem units_strictMono : StrictMono units :=
  strictMono_nat_of_lt_succ fun rank => by
    rw [units_succ]
    exact Nat.lt_add_of_pos_right (gap_pos rank)

/-- A step is at least a part of 2⁵³ of the magnitude that it leads to. -/
theorem units_succ_le (rank : Nat) : units (rank + 1) ≤ 2 ^ 53 * gap rank := by
  rw [units_succ]
  rcases exists_place rank with first | ⟨block, place, h, rfl⟩
  · rw [units_of_lt (by omega), gap_of_lt first]
    omega
  · rw [units_of_place block h, gap_of_place block h, ← Nat.add_one_mul]
    exact Nat.mul_le_mul_right _ (by omega)

/-- From the second block on, a step is at most a part of 2⁵² of the magnitude it starts from. -/
theorem gap_le {rank : Nat} (normal : 2 ^ 52 ≤ rank) : 2 ^ 52 * gap rank ≤ units rank := by
  rcases exists_place rank with first | ⟨block, place, h, rfl⟩
  · exact absurd first (Nat.not_lt.mpr normal)
  · rw [units_of_place block h, gap_of_place block h]
    exact Nat.mul_le_mul_right _ (Nat.le_add_right _ _)

/-- Counting by the steps of a block, up to the first magnitude of the next one. -/
theorem units_of_count {block count : Nat} (inside : block = 0 ∨ 2 ^ 52 ≤ count)
    (le : count ≤ 2 ^ 53) : units (block * 2 ^ 52 + count) = count * 2 ^ block := by
  rcases Nat.lt_or_ge count (2 ^ 52) with small | large
  · obtain rfl : block = 0 := inside.resolve_right (Nat.not_le.mpr small)
    rw [Nat.zero_mul, Nat.zero_add, units_of_lt (by omega), Nat.pow_zero, Nat.mul_one]
  · obtain ⟨place, rfl⟩ := Nat.exists_eq_add_of_le large
    rcases Nat.lt_or_ge place (2 ^ 52) with within | full
    · rw [← units_of_place block within, Nat.add_one_mul, Nat.add_assoc]
    · have next : block * 2 ^ 52 + (2 ^ 52 + place) = (block + 1 + 1) * 2 ^ 52 + 0 := by omega
      have twice : 2 ^ 52 + place = (2 ^ 52 + 0) * 2 := by omega
      have doubled : 2 ^ (block + 1) = 2 * 2 ^ block := Nat.pow_succ'
      rw [next, units_of_place (block + 1) (by decide), twice, doubled, Nat.mul_assoc]

/-! ## Magnitudes -/

def magnitude (rank : Nat) : ℚ := units rank / 2 ^ 1074

def step (rank : Nat) : ℚ := gap rank / 2 ^ 1074

theorem magnitude_zero : magnitude 0 = 0 := by
  rw [magnitude, units_of_lt (by decide), Nat.cast_zero, zero_div]

theorem magnitude_succ (rank : Nat) : magnitude (rank + 1) = magnitude rank + step rank := by
  rw [magnitude, units_succ, Nat.cast_add, add_div, magnitude, step]

theorem step_pos (rank : Nat) : 0 < step rank :=
  div_pos (Nat.cast_pos.mpr (gap_pos rank)) (by positivity)

theorem step_mono {a b : Nat} (h : a ≤ b) : step a ≤ step b :=
  div_le_div_of_nonneg_right (Nat.cast_le.mpr (gap_mono h)) (by positivity)

theorem magnitude_strictMono : StrictMono magnitude :=
  fun _ _ h => div_lt_div_of_pos_right (Nat.cast_lt.mpr (units_strictMono h)) (by positivity)

theorem magnitude_nonneg (rank : Nat) : 0 ≤ magnitude rank :=
  div_nonneg (Nat.cast_nonneg _) (by positivity)

theorem magnitude_pos {rank : Nat} (h : 0 < rank) : 0 < magnitude rank := by
  rw [← magnitude_zero]
  exact magnitude_strictMono h

theorem magnitude_succ_le (rank : Nat) : magnitude (rank + 1) ≤ 2 ^ 53 * step rank := by
  rw [magnitude, step, mul_div_assoc']
  refine div_le_div_of_nonneg_right ?_ (by positivity)
  exact_mod_cast units_succ_le rank

theorem step_le {rank : Nat} (normal : 2 ^ 52 ≤ rank) : 2 ^ 52 * step rank ≤ magnitude rank := by
  rw [magnitude, step, mul_div_assoc']
  refine div_le_div_of_nonneg_right ?_ (by positivity)
  exact_mod_cast gap_le normal

/-- So many steps further, the magnitude has grown by as many steps at least. -/
theorem magnitude_add_le (rank count : Nat) :
    magnitude rank + count * step rank ≤ magnitude (rank + count) := by
  induction count with
  | zero => simp
  | succ count ih =>
      rw [← Nat.add_assoc, magnitude_succ, Nat.cast_succ]
      have := step_mono (Nat.le_add_right rank count)
      linarith

/-- The middle between a magnitude and the next. -/
def mid (rank : Nat) : ℚ := magnitude rank + step rank / 2

theorem magnitude_lt_mid (rank : Nat) : magnitude rank < mid rank := by
  have := step_pos rank
  rw [mid]
  linarith

theorem mid_lt_magnitude_succ (rank : Nat) : mid rank < magnitude (rank + 1) := by
  have := step_pos rank
  rw [mid, magnitude_succ]
  linarith

theorem mid_strictMono : StrictMono mid :=
  strictMono_nat_of_lt_succ fun rank =>
    (mid_lt_magnitude_succ rank).trans (magnitude_lt_mid (rank + 1))

end EvaluationBrowser.Binary64

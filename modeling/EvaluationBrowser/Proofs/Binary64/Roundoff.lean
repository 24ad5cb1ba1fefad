/-
# How far rounding goes

Rounding a number that is not below the second block changes it by a factor of `roundoff` at most.
Factors multiply, so they tell how far a product or quotient of rounded numbers is from the exact
one; and a small factor changes the nearest rank by few ranks, however large the number is.
-/
import EvaluationBrowser.Proofs.Binary64.Nearest

namespace EvaluationBrowser.Binary64

/-- Each of the numbers is at most so many times the other. -/
def Within (factor x y : ℚ) : Prop := x ≤ y * factor ∧ y ≤ x * factor

/-- The factor of one rounding. -/
def roundoff : ℚ := 1 + 1 / 2 ^ 53

section Factors

variable {f g x x' y y' : ℚ}

theorem Within.symm (h : Within f x y) : Within f y x := ⟨h.2, h.1⟩

theorem Within.mul (hf : Within f x x') (hg : Within g y y') (f0 : 0 ≤ f)
    (x0 : 0 ≤ x) (x'0 : 0 ≤ x') (y0 : 0 ≤ y) (y'0 : 0 ≤ y') :
    Within (f * g) (x * y) (x' * y') := by
  constructor
  · calc x * y ≤ (x' * f) * (y' * g) := mul_le_mul hf.1 hg.1 y0 (mul_nonneg x'0 f0)
      _ = x' * y' * (f * g) := by ring
  · calc x' * y' ≤ (x * f) * (y * g) := mul_le_mul hf.2 hg.2 y'0 (mul_nonneg x0 f0)
      _ = x * y * (f * g) := by ring

theorem Within.inv (h : Within f x x') (x0 : 0 < x) (x'0 : 0 < x') : Within f x⁻¹ x'⁻¹ := by
  constructor
  · rw [inv_eq_one_div, div_le_iff₀ x0, mul_assoc, mul_comm, ← div_eq_mul_inv, le_div_iff₀ x'0,
      one_mul, mul_comm]
    exact h.2
  · rw [inv_eq_one_div, div_le_iff₀ x'0, mul_assoc, mul_comm, ← div_eq_mul_inv, le_div_iff₀ x0,
      one_mul, mul_comm]
    exact h.1

theorem Within.div (hf : Within f x x') (hg : Within g y y') (f0 : 0 ≤ f)
    (x0 : 0 ≤ x) (x'0 : 0 ≤ x') (y0 : 0 < y) (y'0 : 0 < y') :
    Within (f * g) (x / y) (x' / y') := by
  rw [div_eq_mul_inv, div_eq_mul_inv]
  exact hf.mul (hg.inv y0 y'0) f0 x0 x'0 (inv_nonneg.mpr y0.le) (inv_nonneg.mpr y'0.le)

theorem Within.trans (hf : Within f x y) (hg : Within g y y') (f0 : 0 ≤ f) (g0 : 0 ≤ g) :
    Within (f * g) x y' := by
  constructor
  · calc x ≤ y * f := hf.1
      _ ≤ y' * g * f := mul_le_mul_of_nonneg_right hg.1 f0
      _ = y' * (f * g) := by ring
  · calc y' ≤ y * g := hg.2
      _ ≤ x * f * g := mul_le_mul_of_nonneg_right hf.2 g0
      _ = x * (f * g) := by ring

end Factors

theorem one_le_roundoff : 1 ≤ roundoff := by
  rw [roundoff]
  exact le_add_of_nonneg_right (by positivity)

/-- One rounding of a number that is not below the second block. -/
theorem IsNearest.within {x : ℚ} {r : Nat} (h : IsNearest x r)
    (normal : magnitude (2 ^ 52) ≤ x) : Within roundoff x (magnitude r) := by
  have large : 2 ^ 52 ≤ r := (isNearest_magnitude (2 ^ 52)).le_of_le h normal
  constructor
  · have step := step_le large
    have := h.le_mid
    rw [mid] at this
    rw [roundoff]
    linarith
  · rcases large.eq_or_lt with rfl | more
    · exact normal.trans
        (le_mul_of_one_le_right ((magnitude_nonneg _).trans normal) one_le_roundoff)
    · obtain ⟨below, rfl⟩ : ∃ below, r = below + 1 := ⟨r - 1, by omega⟩
      have step := step_le (Nat.le_of_lt_succ more)
      have := h.mid_le
      have pos := step_pos below
      rw [mid] at this
      rw [magnitude_succ, roundoff]
      linarith

section Ranks

variable {x y : ℚ} {r s : Nat}

/-- A middle and so many steps lie before the middle so many ranks on. -/
theorem mid_add_le (r count : Nat) : mid r + count * step r ≤ mid (r + count) := by
  have magnitudes := magnitude_add_le r count
  have steps := step_mono (Nat.le_add_right r count)
  rw [mid, mid]
  linarith

theorem IsNearest.le_add (hx : IsNearest x r) (hy : IsNearest y s) {count : Nat}
    (close : y < x + count * step r) : s ≤ r + count := by
  refine hy.le_of_lt_mid ?_
  have := hx.le_mid
  have := mid_add_le r count
  linarith

/-- A factor changes the rank by few ranks. -/
theorem IsNearest.le_add_of_within (hx : IsNearest x r) (hy : IsNearest y s) {factor : ℚ}
    (within : Within factor x y) {count : Nat} (one : 1 ≤ factor)
    (few : (2 ^ 53 - 1 / 2) * (factor - 1) < count) : s ≤ r + count := by
  refine hy.le_of_lt_mid ?_
  have top : mid r ≤ (2 ^ 53 - 1 / 2) * step r := by
    have := magnitude_succ_le r
    rw [magnitude_succ] at this
    rw [mid]
    linarith
  have grown : mid r * (factor - 1) < count * step r := by
    calc mid r * (factor - 1) ≤ (2 ^ 53 - 1 / 2) * step r * (factor - 1) :=
          mul_le_mul_of_nonneg_right top (by linarith)
      _ = (2 ^ 53 - 1 / 2) * (factor - 1) * step r := by ring
      _ < count * step r := mul_lt_mul_of_pos_right few (step_pos r)
  have := mid_add_le r count
  calc y ≤ x * factor := within.2
    _ ≤ mid r * factor := mul_le_mul_of_nonneg_right hx.le_mid (by linarith)
    _ = mid r + mid r * (factor - 1) := by ring
    _ < mid (r + count) := by linarith

end Ranks

end EvaluationBrowser.Binary64

/-
# Scaling by a power of ten

The number of a literal is rounded up to four times on the way: the coefficient, the power of ten,
their product or quotient, and once more where the power has more than 308 places. What comes out is
therefore a few ranks from the nearest one at most. It is the nearest one where nothing is lost on
the way, which is so for a coefficient of 53 bits and a power of ten that is a number itself.
-/
import EvaluationBrowser.Json.Literal
import EvaluationBrowser.Proofs.Binary64.Roundoff

namespace EvaluationBrowser.Json

open Binary64

/-- At most so many ranks apart. -/
def Close (count r s : Nat) : Prop := r ≤ s + count ∧ s ≤ r + count

theorem Close.mono {few many r s : Nat} (h : Close few r s) (le : few ≤ many) : Close many r s :=
  ⟨h.1.trans (Nat.add_le_add_left le s), h.2.trans (Nat.add_le_add_left le r)⟩

theorem close_of_within {x y factor : ℚ} {r s count : Nat} (hx : IsNearest x r)
    (hy : IsNearest y s) (within : Within factor x y) (one : 1 ≤ factor)
    (few : (2 ^ 53 - 1 / 2) * (factor - 1) < count) : Close count r s :=
  ⟨hy.le_add_of_within hx within.symm one few, hx.le_add_of_within hy within one few⟩

/-! ## Coefficients and powers of ten -/

theorem normal_one : magnitude (2 ^ 52) ≤ 1 := by
  have one : magnitude (nearestRank 1 1) = 1 := by
    rw [magnitude_nearestRank (by decide), Nat.cast_one]
  rw [← one]
  exact magnitude_strictMono.monotone (by decide +kernel)

theorem coefficient_within {coefficient : Nat} (pos : 0 < coefficient) :
    Within roundoff coefficient (magnitude (nearestRank coefficient 1)) :=
  (nearestRank_nat_isNearest coefficient).within
    (normal_one.trans (Nat.one_le_cast.mpr pos))

theorem one_le_ten_pow (exponent : Nat) : (1 : ℚ) ≤ 10 ^ exponent :=
  one_le_pow₀ (by norm_num)

theorem tenRank_within (exponent : Nat) :
    Within roundoff (10 ^ exponent) (magnitude (tenRank exponent)) :=
  (tenRank_isNearest exponent).within (normal_one.trans (one_le_ten_pow exponent))

theorem one_le_magnitude_tenRank (exponent : Nat) : 1 ≤ magnitude (tenRank exponent) := by
  have zero : magnitude (tenRank 0) = 1 := by rw [magnitude_tenRank (by decide), pow_zero]
  rw [← zero]
  refine magnitude_strictMono.monotone ?_
  refine (tenRank_isNearest 0).le_of_le (tenRank_isNearest exponent) ?_
  rw [pow_zero]
  exact one_le_ten_pow exponent

theorem tenRank_pos (exponent : Nat) : 0 < tenRank exponent := by
  by_contra zero
  have := one_le_magnitude_tenRank exponent
  rw [Nat.eq_zero_of_not_pos zero, magnitude_zero] at this
  norm_num at this

/-! ## One rounded operation -/

section Operation

variable {coefficient places r : Nat} (pos : 0 < coefficient)

theorem two_roundoffs : (2 ^ 53 - 1 / 2) * (roundoff * roundoff - 1) < (2 : Nat) := by
  norm_num [roundoff]

theorem one_le_two_roundoffs : 1 ≤ roundoff * roundoff := by
  norm_num [roundoff]

include pos

/-- A rounded coefficient times a rounded power of ten. -/
theorem close_productRank (near : IsNearest (coefficient * 10 ^ places) r) :
    Close 2 r (productRank (nearestRank coefficient 1) (tenRank places)) :=
  close_of_within near (productRank_isNearest _ _)
    ((coefficient_within pos).mul (tenRank_within places) (zero_le_one.trans one_le_roundoff)
      (Nat.cast_nonneg _) (magnitude_nonneg _) (by positivity) (magnitude_nonneg _))
    one_le_two_roundoffs two_roundoffs

theorem quotient_within :
    Within (roundoff * roundoff) (coefficient / 10 ^ places)
      (magnitude (nearestRank coefficient 1) / magnitude (tenRank places)) :=
  (coefficient_within pos).div (tenRank_within places) (zero_le_one.trans one_le_roundoff)
    (Nat.cast_nonneg _) (magnitude_nonneg _) (by positivity) (magnitude_pos (tenRank_pos _))

/-- A rounded coefficient divided by a rounded power of ten. -/
theorem close_quotientRank (near : IsNearest (coefficient / 10 ^ places) r) :
    Close 2 r (quotientRank (nearestRank coefficient 1) (tenRank places)) :=
  close_of_within near (quotientRank_isNearest _ (tenRank_pos places)) (quotient_within pos)
    one_le_two_roundoffs two_roundoffs

end Operation

/-! ## Two divisions

The first of them may lead below the second block, where rounding is no matter of factors. But a
number there is so small that a few factors do not move it by two steps, and the rounding error,
half a step, only gets smaller by the second division. -/

section TwoDivisions

theorem four_roundoffs :
    (2 ^ 53 - 1 / 2) * (roundoff * roundoff * roundoff * roundoff - 1) < (5 : Nat) := by
  norm_num [roundoff]

/-- A number below the second block is half a step from its nearest magnitude at most. -/
theorem near_of_small {x : ℚ} {r : Nat} (h : IsNearest x r) (x0 : 0 ≤ x)
    (small : x ≤ magnitude (2 ^ 52)) :
    x ≤ magnitude r + step 0 / 2 ∧ magnitude r ≤ x + step 0 / 2 := by
  have le : r ≤ 2 ^ 52 := h.le_of_le (isNearest_magnitude (2 ^ 52)) small
  have width : ∀ s ≤ 2 ^ 52, step s = step 0 := by
    intro s hs
    rw [step, step, gap, gap]
    congr 3
    omega
  constructor
  · have := h.le_mid
    rwa [mid, width r le] at this
  · rcases Nat.eq_zero_or_pos r with rfl | pos
    · have := step_pos 0
      rw [magnitude_zero]
      linarith
    · obtain ⟨below, rfl⟩ : ∃ below, r = below + 1 := ⟨r - 1, by omega⟩
      have := h.mid_le
      rw [mid, width below (by omega)] at this
      rw [magnitude_succ, width below (by omega)]
      linarith

theorem magnitude_eq_steps : magnitude (2 ^ 52) = 2 ^ 52 * step 0 := by
  rw [magnitude, step, units_of_lt (by decide), gap_of_lt (by decide), Nat.cast_one,
    mul_one_div, Nat.cast_pow, Nat.cast_ofNat]

variable {coefficient places r : Nat}

/-- Three factors move a small number by less than two steps. -/
theorem lt_of_small {x w : ℚ} (within : Within (roundoff * roundoff * roundoff) x w)
    (small : w ≤ 2 ^ 52 * step 0) : x < w + 2 * step 0 ∧ w < x + 2 * step 0 := by
  have pos := step_pos 0
  obtain ⟨upper, lower⟩ := within
  norm_num [roundoff] at upper lower
  norm_num at small
  constructor <;> linarith

theorem close_two_quotients (pos : 0 < coefficient)
    (near : IsNearest (coefficient / 10 ^ 308 / 10 ^ places) r) :
    Close 5 r (quotientRank (quotientRank (nearestRank coefficient 1) (tenRank 308))
      (tenRank places)) := by
  have first := quotientRank_isNearest (nearestRank coefficient 1) (tenRank_pos 308)
  have second := quotientRank_isNearest
    (quotientRank (nearestRank coefficient 1) (tenRank 308)) (tenRank_pos places)
  have within : Within (roundoff * roundoff) (coefficient / 10 ^ 308)
    (magnitude (nearestRank coefficient 1) / magnitude (tenRank 308)) := quotient_within pos
  have x0 : (0 : ℚ) ≤ coefficient / 10 ^ 308 := by positivity
  have u0 : 0 ≤ magnitude (nearestRank coefficient 1) / magnitude (tenRank 308) :=
    div_nonneg (magnitude_nonneg _) (magnitude_nonneg _)
  generalize magnitude (nearestRank coefficient 1) / magnitude (tenRank 308) = u at *
  generalize quotientRank (nearestRank coefficient 1) (tenRank 308) = b at *
  generalize (coefficient / 10 ^ 308 : ℚ) = x at *
  have one : 0 ≤ roundoff := zero_le_one.trans one_le_roundoff
  have two : 0 ≤ roundoff * roundoff := zero_le_one.trans one_le_two_roundoffs
  have ten := tenRank_within places
  have least := one_le_magnitude_tenRank places
  have tenPos := magnitude_pos (tenRank_pos places)
  rcases le_total (magnitude (2 ^ 52)) u with normal | small
  · have factors := (within.trans (first.within normal) two one).div ten (mul_nonneg two one) x0
      (magnitude_nonneg b) (by positivity) tenPos
    exact close_of_within near second factors (by norm_num [roundoff]) four_roundoffs
  · have factors := within.div ten two x0 u0 (by positivity) tenPos
    have quotient : u / magnitude (tenRank places) ≤ 2 ^ 52 * step 0 := by
      rw [← magnitude_eq_steps]
      exact (div_le_self u0 least).trans small
    have half : step 0 / 2 / magnitude (tenRank places) ≤ step 0 / 2 :=
      div_le_self (half_pos (step_pos 0)).le least
    obtain ⟨upper, lower⟩ := near_of_small first u0 small
    have upper := div_le_div_of_nonneg_right upper tenPos.le
    have lower := div_le_div_of_nonneg_right lower tenPos.le
    rw [add_div] at upper lower
    obtain ⟨up, down⟩ := lt_of_small factors quotient
    have pos := step_pos 0
    have widthR := step_mono (Nat.zero_le r)
    have widthS := step_mono (Nat.zero_le (quotientRank b (tenRank places)))
    constructor
    · refine second.le_add near ?_
      push_cast
      linarith
    · refine near.le_add second ?_
      push_cast
      linarith

end TwoDivisions

/-! ## The scaled coefficient -/

/-- A scaled coefficient is in range and near the number it stands for. Two ranks below the limit
are left aside: there a product may round beyond it. -/
structure ScaledNear (coefficient : Nat) (places : Int) (r s : Nat) : Prop where
  scaled : scale? coefficient places = some s
  inRange : s < rankLimit
  close : Close 5 r s
  closer : -308 ≤ places → Close 2 r s
  exact : coefficient ≤ 2 ^ 53 → places.natAbs ≤ 22 → s = r

section Scale

variable {coefficient : Nat} {r : Nat}

theorem places_le (pos : 0 < coefficient) {places : Nat}
    (near : IsNearest (coefficient * 10 ^ places) r) (lt : r < rankLimit) : places ≤ 308 := by
  by_contra many
  have le : tenRank 309 ≤ r := by
    refine (tenRank_isNearest 309).le_of_le near ?_
    calc (10 ^ 309 : ℚ) ≤ 10 ^ places := pow_le_pow_right₀ (by norm_num) (by omega)
      _ ≤ coefficient * 10 ^ places :=
        le_mul_of_one_le_left (by positivity) (Nat.one_le_cast.mpr pos)
  have beyond : rankLimit ≤ tenRank 309 := by decide +kernel
  omega

theorem length_toDigits_le (few : coefficient ≤ 10 ^ 17) :
    (Nat.toDigits 10 coefficient).length ≤ 18 :=
  (Nat.length_toDigits_le_iff (by decide) (by decide)).mpr (Nat.lt_of_le_of_lt few (by decide))

theorem places_le_of_pos (few : coefficient ≤ 10 ^ 17) {places : Nat}
    (near : IsNearest (coefficient / 10 ^ places) r) (positive : 0 < r) : places ≤ 616 := by
  have digits := length_toDigits_le few
  have zeros := places_le_of_isNearest positive near
  omega

theorem scale?_natCast (pos : 0 < coefficient) {places : Nat} (le : places ≤ 308) :
    scale? coefficient places =
      if productRank (nearestRank coefficient 1) (tenRank places) < rankLimit then
        some (productRank (nearestRank coefficient 1) (tenRank places))
      else none := by
  have large : ¬(308 < (places : Int)) := by omega
  simp only [scale?, Int.natCast_nonneg, not_lt_of_ge, if_false, if_neg pos.ne', if_neg large,
    Int.toNat_natCast]

theorem scale?_neg (places : Nat) (pos : 0 < places) :
    scale? coefficient (-places) = some (scaleDown (nearestRank coefficient 1) places) := by
  have below : -(places : Int) < 0 := by omega
  simp only [scale?, if_pos below, Int.neg_neg, Int.toNat_natCast]

theorem scaleDown_of_lt {rank places : Nat} (far : 308 < places) (le : places ≤ 616)
    (nonzero : rank ≠ 0) :
    scaleDown rank places
      = quotientRank (quotientRank rank (tenRank 308)) (tenRank (places - 308)) := by
  rw [scaleDown, if_neg (by omega), if_neg nonzero, scaleDown, if_pos (by omega)]

theorem nearestRank_pos (pos : 0 < coefficient) : 0 < nearestRank coefficient 1 := by
  have large : 2 ^ 52 ≤ nearestRank coefficient 1 :=
    (isNearest_magnitude (2 ^ 52)).le_of_le (nearestRank_nat_isNearest coefficient)
      (normal_one.trans (Nat.one_le_cast.mpr pos))
  omega

theorem scaledNear_natCast (pos : 0 < coefficient) {places : Nat}
    (near : IsNearest (coefficient * 10 ^ places) r) (room : r + 2 < rankLimit) :
    ∃ s, ScaledNear coefficient places r s := by
  have close := close_productRank pos near
  have inRange : productRank (nearestRank coefficient 1) (tenRank places) < rankLimit :=
    close.2.trans_lt room
  refine ⟨_, ?_, inRange, close.mono (by decide), fun _ => close, ?_⟩
  · rw [scale?_natCast pos (places_le pos near (by omega)), if_pos inRange]
  · intro few small
    refine ((productRank_isNearest _ _).unique ?_)
    rwa [magnitude_nearestRank few, magnitude_tenRank (by simpa using small)]

theorem scaledNear_neg (pos : 0 < coefficient) (few : coefficient ≤ 10 ^ 17) {places : Nat}
    (below : 0 < places) (near : IsNearest (coefficient / 10 ^ places) r) (positive : 0 < r) :
    ∃ s, ScaledNear coefficient (-places) r s := by
  have le := places_le_of_pos few near positive
  have small : r ≤ nearestRank (10 ^ 17) 1 := by
    refine near.le_of_le (nearestRank_nat_isNearest (10 ^ 17)) ?_
    exact (div_le_self (Nat.cast_nonneg _) (one_le_ten_pow _)).trans (Nat.cast_le.mpr few)
  have range : nearestRank (10 ^ 17) 1 + 5 < rankLimit := by decide +kernel
  rcases Nat.lt_or_ge 308 places with far | direct
  · have split : (coefficient / 10 ^ places : ℚ)
        = coefficient / 10 ^ 308 / 10 ^ (places - 308) := by
      rw [div_div, ← pow_add, Nat.add_sub_cancel' far.le]
    have close := close_two_quotients pos (split ▸ near)
    refine ⟨_, ?_, ?_, close, ?_, ?_⟩
    · rw [scale?_neg places below, scaleDown_of_lt far le (nearestRank_pos pos).ne']
    · have := close.2
      omega
    · intro bound
      omega
    · intro _ bound
      omega
  · have close := close_quotientRank pos near
    refine ⟨_, ?_, ?_, close.mono (by decide), fun _ => close, ?_⟩
    · rw [scale?_neg places below, scaleDown, if_pos direct]
    · have := close.2
      omega
    · intro short bound
      refine (quotientRank_isNearest _ (tenRank_pos places)).unique ?_
      rwa [magnitude_nearestRank short, magnitude_tenRank (by simpa using bound)]

/-- A coefficient of at most eighteen digits, scaled to a number that is not zero. -/
theorem exists_scaledNear {places : Int} (pos : 0 < coefficient) (few : coefficient ≤ 10 ^ 17)
    (near : IsNearest (coefficient * 10 ^ places) r) (positive : 0 < r)
    (room : r + 2 < rankLimit) : ∃ s, ScaledNear coefficient places r s := by
  obtain ⟨n, rfl | rfl⟩ := places.eq_nat_or_neg
  · rw [zpow_natCast] at near
    exact scaledNear_natCast pos near room
  · rcases Nat.eq_zero_or_pos n with rfl | below
    · exact scaledNear_natCast pos near room
    · rw [zpow_neg, zpow_natCast, ← div_eq_mul_inv] at near
      exact scaledNear_neg pos few below near positive

end Scale

end EvaluationBrowser.Json

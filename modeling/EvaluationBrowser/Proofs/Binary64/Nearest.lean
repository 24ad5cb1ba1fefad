/-
# Rounding is to the nearest

`IsNearest x rank` says that `x` lies between the middles around a magnitude, and on a middle only
where the rank is even. A number has one nearest rank at most, a larger number no lesser one, and
`nearestRank` finds it. Products, quotients and powers of ten are then rounded as their exact values
are, and what is itself a magnitude stays. What is not rounded to zero is not far below the least
magnitude, so a decimal that stands for it has few zeros behind its point.
-/
import EvaluationBrowser.Proofs.Binary64.Magnitude
import EvaluationBrowser.Proofs.Text.Digits

namespace EvaluationBrowser.Binary64

structure IsNearest (x : ℚ) (rank : Nat) : Prop where
  above : ∀ below, below + 1 = rank → mid below < x ∨ mid below = x ∧ rank % 2 = 0
  below : x < mid rank ∨ x = mid rank ∧ rank % 2 = 0

section Between

variable {x y : ℚ} {r s : Nat}

theorem IsNearest.le_mid (h : IsNearest x r) : x ≤ mid r := by
  rcases h.below with lt | ⟨eq, -⟩
  · exact lt.le
  · exact eq.le

theorem IsNearest.mid_le (h : IsNearest x (r + 1)) : mid r ≤ x := by
  rcases h.above r rfl with lt | ⟨eq, -⟩
  · exact lt.le
  · exact eq.le

/-- Rounding keeps the order. -/
theorem IsNearest.le_of_le (hx : IsNearest x r) (hy : IsNearest y s) (le : x ≤ y) : r ≤ s := by
  by_contra gt
  obtain ⟨below, rfl⟩ : ∃ below, r = below + 1 := ⟨r - 1, by omega⟩
  rcases Nat.lt_or_ge s below with apart | next
  · have := mid_strictMono apart
    linarith [hx.mid_le, hy.le_mid]
  · -- Neighbours: both numbers are the middle, and both ranks even.
    obtain rfl : s = below := by omega
    rcases hx.above s rfl with lt | ⟨eq, even⟩
    · linarith [hy.le_mid]
    · rcases hy.below with lt | ⟨eq', even'⟩
      · linarith
      · omega

theorem IsNearest.unique (hr : IsNearest x r) (hs : IsNearest x s) : r = s :=
  Nat.le_antisymm (hr.le_of_le hs le_rfl) (hs.le_of_le hr le_rfl)

theorem IsNearest.le_of_lt_mid (h : IsNearest x r) (lt : x < mid s) : r ≤ s := by
  by_contra gt
  obtain ⟨below, rfl⟩ : ∃ below, r = below + 1 := ⟨r - 1, by omega⟩
  have := mid_strictMono.monotone (show s ≤ below by omega)
  linarith [h.mid_le]

/-- A magnitude is nearest to itself. -/
theorem isNearest_magnitude (r : Nat) : IsNearest (magnitude r) r where
  above := by
    rintro below rfl
    exact .inl (mid_lt_magnitude_succ below)
  below := .inl (magnitude_lt_mid r)

/-- So is what lies close to it. -/
theorem isNearest_of_close (h : 2 ^ 54 * |x - magnitude r| < magnitude r) : IsNearest x r where
  above := by
    rintro below rfl
    have leap := magnitude_succ_le below
    have := (abs_lt.mp (show |x - magnitude (below + 1)| < magnitude (below + 1) / 2 ^ 54 by
      linarith)).1
    refine .inl ?_
    rw [mid]
    rw [magnitude_succ] at *
    linarith
  below := by
    have leap := magnitude_succ_le r
    have := (abs_lt.mp (show |x - magnitude r| < magnitude r / 2 ^ 54 by linarith)).2
    refine .inl ?_
    rw [mid]
    rw [magnitude_succ] at leap
    have := step_pos r
    linarith

end Between

/-! ## The quotient of two whole numbers -/

section RoundDiv

variable (num den : Nat)

theorem roundDiv_eq : roundDiv num den = num / den ∨ roundDiv num den = num / den + 1 := by
  unfold roundDiv
  dsimp only
  split
  · exact .inl rfl
  split
  · exact .inr rfl
  · omega

/-- The rounded quotient is at most half away, and just half only if it is even. -/
theorem roundDiv_near (pos : 0 < den) :
    (2 * roundDiv num den * den < 2 * num + den ∨
      2 * roundDiv num den * den = 2 * num + den ∧ roundDiv num den % 2 = 0) ∧
    (2 * num < (2 * roundDiv num den + 1) * den ∨
      2 * num = (2 * roundDiv num den + 1) * den ∧ roundDiv num den % 2 = 0) := by
  have split := Nat.div_add_mod num den
  have rest := Nat.mod_lt num pos
  unfold roundDiv
  dsimp only
  generalize num / den = q at *
  generalize num % den = r at *
  subst split
  split
  next less => exact ⟨.inl (by nlinarith), .inl (by nlinarith)⟩
  next notLess =>
    split
    next more => exact ⟨.inl (by nlinarith), .inl (by nlinarith)⟩
    next notMore =>
      obtain rfl : den = 2 * r := by omega
      rcases Nat.mod_two_eq_zero_or_one q with even | odd
      · rw [even, Nat.add_zero]
        exact ⟨.inl (by nlinarith), .inr ⟨by ring, even⟩⟩
      · rw [odd]
        exact ⟨.inr ⟨by ring, by omega⟩, .inl (by nlinarith)⟩

end RoundDiv

/-! ## The nearest rank

A quotient of units is counted in steps of its block. The count is large enough for the block,
unless that is the first, and at most that of the first magnitude of the next block. -/

structure IsCount (num den block count : Nat) : Prop where
  eq : count = roundDiv num (den * 2 ^ block)
  inside : block = 0 ∨ 2 ^ 52 * (den * 2 ^ block) ≤ num
  large : block = 0 ∨ 2 ^ 52 ≤ count
  le : count ≤ 2 ^ 53

theorem isCount_log2 (num : Nat) {den : Nat} (pos : 0 < den) :
    IsCount num den (Nat.log2 (num / den) - 52)
      (roundDiv num (den * 2 ^ (Nat.log2 (num / den) - 52))) := by
  generalize power : Nat.log2 (num / den) - 52 = block
  have below : num / den < 2 ^ (53 + block) :=
    Nat.lt_log2_self.trans_le (Nat.pow_le_pow_right (by decide) (by omega))
  have inside : block = 0 ∨ 2 ^ 52 * (den * 2 ^ block) ≤ num := by
    by_cases zero : block = 0
    · exact .inl zero
    · have exponent : Nat.log2 (num / den) = 52 + block := by omega
      have positive : num / den ≠ 0 := by
        intro eq
        rw [eq, Nat.log2_zero] at exponent
        omega
      have least := Nat.log2_self_le positive
      rw [exponent, Nat.le_div_iff_mul_le pos, Nat.pow_add] at least
      refine .inr ?_
      calc 2 ^ 52 * (den * 2 ^ block) = 2 ^ 52 * 2 ^ block * den := by ring
        _ ≤ num := least
  have quotient : num / (den * 2 ^ block) < 2 ^ 53 := by
    rw [← Nat.div_div_eq_div_mul, Nat.div_lt_iff_lt_mul (Nat.two_pow_pos _), ← Nat.pow_add]
    exact below
  refine ⟨rfl, inside, inside.imp_right fun least => ?_, ?_⟩
  · have : 2 ^ 52 ≤ num / (den * 2 ^ block) :=
      (Nat.le_div_iff_mul_le (Nat.mul_pos pos (Nat.two_pow_pos _))).mpr least
    rcases roundDiv_eq num (den * 2 ^ block) with eq | eq <;> omega
  · rcases roundDiv_eq num (den * 2 ^ block) with eq | eq <;> omega

/-- From a count on, a step is at least one of its block. -/
theorem le_gap_of_count {block count : Nat} (large : block = 0 ∨ 2 ^ 52 ≤ count) :
    2 ^ block ≤ gap (block * 2 ^ 52 + count) :=
  Nat.pow_le_pow_right (by decide) (by omega)

/-- The step that leads to a count is one of its block, or the count is the first of it. -/
theorem gap_of_count {block count below : Nat} (le : count ≤ 2 ^ 53)
    (eq : below + 1 = block * 2 ^ 52 + count) :
    gap below = 2 ^ block ∨ block ≠ 0 ∧ count ≤ 2 ^ 52 := by
  by_cases first : block = 0 ∨ 2 ^ 52 < count
  · left
    rw [gap]
    congr 1
    omega
  · exact .inr (by omega)

section Quotient

variable {num den : Nat} (pos : 0 < den) (rank : Nat)

include pos

theorem div_sub_mid :
    (num / den : ℚ) - mid rank
      = ((2 * (num * 2 ^ 1074) : Nat) - ((2 * units rank + gap rank) * den : Nat))
          / (2 * den * 2 ^ 1074) := by
  have den' : (den : ℚ) ≠ 0 := Nat.cast_ne_zero.mpr pos.ne'
  have unit : (2 : ℚ) ^ 1074 ≠ 0 := by positivity
  rw [mid, magnitude, step]
  simp only [Nat.cast_mul, Nat.cast_add, Nat.cast_pow, Nat.cast_ofNat]
  generalize (2 : ℚ) ^ 1074 = unit at *
  field_simp

theorem scale_pos : (0 : ℚ) < 2 * den * 2 ^ 1074 :=
  mul_pos (mul_pos two_pos (Nat.cast_pos.mpr pos)) (by positivity)

theorem div_lt_mid_iff :
    (num / den : ℚ) < mid rank ↔ 2 * (num * 2 ^ 1074) < (2 * units rank + gap rank) * den := by
  rw [← sub_neg, div_sub_mid pos, div_lt_iff₀ (scale_pos pos), zero_mul, sub_neg, Nat.cast_lt]

theorem mid_lt_div_iff :
    mid rank < (num / den : ℚ) ↔ (2 * units rank + gap rank) * den < 2 * (num * 2 ^ 1074) := by
  rw [← sub_pos, div_sub_mid pos, div_pos_iff_of_pos_right (scale_pos pos), sub_pos, Nat.cast_lt]

theorem div_eq_mid_iff :
    (num / den : ℚ) = mid rank ↔ 2 * (num * 2 ^ 1074) = (2 * units rank + gap rank) * den := by
  rw [← sub_eq_zero, div_sub_mid pos, div_eq_zero_iff, or_iff_left (scale_pos pos).ne',
    sub_eq_zero, Nat.cast_inj]

end Quotient

theorem IsCount.isNearest {num den block count : Nat} (pos : 0 < den)
    (h : IsCount (num * 2 ^ 1074) den block count) :
    IsNearest (num / den : ℚ) (block * 2 ^ 52 + count) := by
  have parity : (block * 2 ^ 52 + count) % 2 = count % 2 := by omega
  have near := roundDiv_near (num * 2 ^ 1074) (den * 2 ^ block)
    (Nat.mul_pos pos (Nat.two_pow_pos _))
  rw [← h.eq] at near
  refine ⟨?_, ?_⟩
  · intro below eq
    have units := units_of_count h.large h.le
    rw [← eq, units_succ] at units
    rw [mid_lt_div_iff pos, eq_comm, div_eq_mid_iff pos, parity]
    rcases gap_of_count h.le eq with width | ⟨later, first⟩
    · have twice : (2 * Binary64.units below + gap below) * den + den * 2 ^ block
          = 2 * count * (den * 2 ^ block) := by
        rw [width] at units ⊢
        calc (2 * Binary64.units below + 2 ^ block) * den + den * 2 ^ block
            = 2 * (Binary64.units below + 2 ^ block) * den := by ring
          _ = 2 * count * (den * 2 ^ block) := by rw [units]; ring
      rcases near.1 with lt | ⟨same, even⟩
      · exact .inl (by omega)
      · exact .inr ⟨by omega, even⟩
    · -- The count is the first of its block, so the number is no smaller than the magnitude.
      obtain rfl : count = 2 ^ 52 := Nat.le_antisymm first (h.large.resolve_left later)
      have least := h.inside.resolve_left later
      refine .inl ?_
      calc (2 * Binary64.units below + gap below) * den
          < 2 * (Binary64.units below + gap below) * den :=
            Nat.mul_lt_mul_of_pos_right (by have := gap_pos below; omega) pos
        _ = 2 * (2 ^ 52 * (den * 2 ^ block)) := by rw [units]; ring
        _ ≤ 2 * (num * 2 ^ 1074) := Nat.mul_le_mul_left 2 least
  · rw [div_lt_mid_iff pos, div_eq_mid_iff pos, units_of_count h.large h.le, parity]
    have wide : (2 * count + 1) * (den * 2 ^ block)
        ≤ (2 * (count * 2 ^ block) + gap (block * 2 ^ 52 + count)) * den := by
      calc (2 * count + 1) * (den * 2 ^ block)
          = (2 * (count * 2 ^ block) + 2 ^ block) * den := by ring
        _ ≤ _ := Nat.mul_le_mul_right den (Nat.add_le_add_left (le_gap_of_count h.large) _)
    rcases near.2 with lt | ⟨same, even⟩
    · exact .inl (lt.trans_le wide)
    · rcases (same.le.trans wide).lt_or_eq with lt | eq
      · exact .inl lt
      · exact .inr ⟨eq, even⟩

theorem nearestRank_isNearest (num : Nat) {den : Nat} (pos : 0 < den) :
    IsNearest (num / den : ℚ) (nearestRank num den) :=
  (isCount_log2 (num * 2 ^ 1074) pos).isNearest pos

theorem nearestRank_nat_isNearest (n : Nat) : IsNearest (n : ℚ) (nearestRank n 1) := by
  have := nearestRank_isNearest n Nat.one_pos
  rwa [Nat.cast_one, div_one] at this

theorem tenRank_isNearest (exponent : Nat) : IsNearest (10 ^ exponent : ℚ) (tenRank exponent) := by
  have := nearestRank_nat_isNearest (10 ^ exponent)
  rwa [Nat.cast_pow, Nat.cast_ofNat] at this

theorem productRank_isNearest (a b : Nat) :
    IsNearest (magnitude a * magnitude b) (productRank a b) := by
  have scaled : ∀ power, (2 : ℚ) ^ power = 2 ^ 1074 * 2 ^ 1074 →
      IsNearest (magnitude a * magnitude b) (nearestRank (units a * units b) (2 ^ power)) := by
    intro power square
    have := nearestRank_isNearest (units a * units b) (Nat.two_pow_pos power)
    rwa [Nat.cast_mul, Nat.cast_pow, Nat.cast_ofNat, square, ← div_mul_div_comm] at this
  have square : (2 : ℚ) ^ 2148 = 2 ^ 1074 * 2 ^ 1074 := pow_add 2 1074 1074
  rw [productRank]
  exact scaled 2148 square

theorem quotientRank_isNearest (a : Nat) {b : Nat} (pos : 0 < b) :
    IsNearest (magnitude a / magnitude b) (quotientRank a b) := by
  have units_pos : 0 < units b := (Nat.zero_le _).trans_lt (units_strictMono pos)
  have := nearestRank_isNearest (units a) units_pos
  rwa [magnitude, magnitude, div_div_div_cancel_right₀ (by positivity)]

/-! ## What is itself a magnitude -/

/-- A magnitude rounds to its own rank. -/
theorem IsNearest.rank_eq {x : ℚ} {r s : Nat} (h : IsNearest x r) (eq : x = magnitude s) : r = s :=
  h.unique (eq ▸ isNearest_magnitude s)

/-- Whole numbers of 53 bits, and their products with powers of two, are magnitudes. -/
theorem exists_magnitude {m : Nat} (le : m ≤ 2 ^ 53) (power : Nat) :
    ∃ rank, magnitude rank = m * 2 ^ power := by
  have units : ∃ rank, units rank = m * 2 ^ (power + 1074) := by
    rcases Nat.eq_zero_or_pos m with rfl | pos
    · exact ⟨0, by rw [units_of_lt (by decide), Nat.zero_mul]⟩
    · -- The number is shifted up to 53 bits.
      have least := Nat.log2_self_le pos.ne'
      have shifted : 2 ^ 52 ≤ m * 2 ^ (52 - Nat.log2 m) := by
        calc 2 ^ 52 ≤ 2 ^ (Nat.log2 m + (52 - Nat.log2 m)) :=
              Nat.pow_le_pow_right (by decide) (by omega)
          _ ≤ m * 2 ^ (52 - Nat.log2 m) := by rw [Nat.pow_add]; exact Nat.mul_le_mul_right _ least
      have short : m * 2 ^ (52 - Nat.log2 m) ≤ 2 ^ 53 := by
        rcases Nat.lt_or_ge 52 (Nat.log2 m) with long | short
        · rw [Nat.sub_eq_zero_of_le long.le, Nat.pow_zero, Nat.mul_one]
          exact le
        · calc m * 2 ^ (52 - Nat.log2 m) ≤ 2 ^ (Nat.log2 m + 1) * 2 ^ (52 - Nat.log2 m) :=
                Nat.mul_le_mul_right _ Nat.lt_log2_self.le
            _ = 2 ^ 53 := by rw [← Nat.pow_add]; congr 1; omega
      refine ⟨(power + 1074 - (52 - Nat.log2 m)) * 2 ^ 52 + m * 2 ^ (52 - Nat.log2 m), ?_⟩
      rw [units_of_count (.inr shifted) short, Nat.mul_assoc, ← Nat.pow_add]
      congr 2
      omega
  obtain ⟨rank, eq⟩ := units
  refine ⟨rank, ?_⟩
  have cast : ((m * 2 ^ (power + 1074) : Nat) : ℚ) = m * 2 ^ power * 2 ^ 1074 := by
    rw [Nat.cast_mul, Nat.cast_pow, Nat.cast_ofNat, pow_add, mul_assoc]
  rw [magnitude, eq, cast, mul_div_cancel_right₀ _ (by positivity)]

theorem magnitude_nearestRank {m : Nat} (le : m ≤ 2 ^ 53) :
    magnitude (nearestRank m 1) = m := by
  obtain ⟨rank, eq⟩ := exists_magnitude le 0
  rw [pow_zero, mul_one] at eq
  rw [(nearestRank_nat_isNearest m).rank_eq eq.symm, eq]

/-- Powers of ten up to the 22nd are magnitudes: the 22nd power of five has 53 bits at most. -/
theorem magnitude_tenRank {exponent : Nat} (le : exponent ≤ 22) :
    magnitude (tenRank exponent) = 10 ^ exponent := by
  have five : 5 ^ exponent ≤ 2 ^ 53 := (Nat.pow_le_pow_right (by decide) le).trans (by decide)
  obtain ⟨rank, eq⟩ := exists_magnitude five exponent
  rw [Nat.cast_pow, Nat.cast_ofNat, ← mul_pow, show (5 * 2 : ℚ) = 10 by norm_num] at eq
  rw [(tenRank_isNearest exponent).rank_eq eq.symm, eq]

/-! ## Decimals that are not rounded to zero -/

/-- What rounds to a positive rank is not far below the least positive magnitude. -/
theorem lt_of_isNearest {x : ℚ} {rank zeros : Nat} (few : zeros = 324) (pos : 0 < rank)
    (near : IsNearest x rank) : (1 / 10 ^ zeros : ℚ) < x := by
  by_contra small
  have tiny := nearestRank_isNearest 1 (show 0 < 10 ^ zeros by positivity)
  rw [Nat.cast_one, Nat.cast_pow, Nat.cast_ofNat] at tiny
  have le := near.le_of_le tiny (not_lt.mp small)
  have zero : nearestRank 1 (10 ^ zeros) = 0 := by
    rw [few]
    decide +kernel
  omega

section Decimals

variable {coefficient places rank : Nat} (pos : 0 < rank)
  (near : IsNearest (coefficient / 10 ^ places) rank)

include pos near

theorem pos_of_isNearest : 0 < coefficient := by
  have above := lt_of_isNearest rfl pos near
  refine Nat.pos_of_ne_zero ?_
  rintro rfl
  rw [Nat.cast_zero, zero_div] at above
  exact absurd above (not_lt_of_ge (by positivity))

/-- No more than 324 zeros stand between the point and the digits. -/
theorem places_le_of_isNearest : places ≤ (Nat.toDigits 10 coefficient).length + 324 := by
  -- A numeral in the exponent would be evaluated.
  obtain ⟨zeros, few⟩ : ∃ zeros : Nat, zeros = 324 := ⟨_, rfl⟩
  have above := lt_of_isNearest few pos near
  rw [div_lt_div_iff₀ (by positivity) (by positivity), one_mul] at above
  have above : 10 ^ places < coefficient * 10 ^ zeros := by exact_mod_cast above
  have short := (Text.bounds_of_length (pos_of_isNearest pos near) rfl).2
  have lt : 10 ^ places < 10 ^ ((Nat.toDigits 10 coefficient).length + zeros) := by
    rw [Nat.pow_add]
    exact above.trans (Nat.mul_lt_mul_of_pos_right short (by positivity))
  rw [← few]
  exact ((Nat.pow_lt_pow_iff_right (by decide)).mp lt).le

end Decimals

end EvaluationBrowser.Binary64

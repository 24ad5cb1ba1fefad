/-
# The shortest decimal reads back

Seventeen digits suffice. On the grid of the seventeenth digit one of the two neighbours of a
magnitude is within half a step of that grid, which is less than a part of 2⁵⁴ of the magnitude; and
what is that close to a magnitude is nearest to it.
-/
import EvaluationBrowser.Proofs.Binary64.Grid
import EvaluationBrowser.Proofs.Binary64.Nearest
import Mathlib.Algebra.Order.Field.Power

namespace EvaluationBrowser

def Decimal.value (d : Decimal) : ℚ := d.coefficient * 10 ^ d.exponent

namespace Binary64

theorem ten_zpow (exponent : Int) :
    (10 : ℚ) ^ exponent = 10 ^ exponent.toNat / 10 ^ (-exponent).toNat := by
  obtain ⟨n, rfl | rfl⟩ := exponent.eq_nat_or_neg
  · simp
  · simp [zpow_neg]

theorem rankOfDecimal_isNearest (d : Decimal) : IsNearest d.value (rankOfDecimal d) := by
  have := nearestRank_isNearest (d.coefficient * 10 ^ d.exponent.toNat)
    (show 0 < 10 ^ (-d.exponent).toNat by positivity)
  rwa [Nat.cast_mul, Nat.cast_pow, Nat.cast_pow, Nat.cast_ofNat, mul_div_assoc, ← ten_zpow] at this

variable {rank : Nat}

theorem units_pos (pos : 0 < rank) : 0 < units rank :=
  (Nat.zero_le _).trans_lt (units_strictMono pos)

theorem magnitude_eq_div {unit : Nat} (whole : unit = 2 ^ 1074) :
    magnitude rank = units rank / unit := by
  rw [magnitude, whole, Nat.cast_pow, Nat.cast_ofNat]

/-- The first digit of a magnitude is not zero and stands at the leading exponent. -/
theorem leadingExponent_spec (pos : 0 < rank) :
    10 ^ leadingExponent rank ≤ magnitude rank ∧
      magnitude rank < 10 ^ (leadingExponent rank + 1) := by
  obtain ⟨unit, whole⟩ : ∃ unit : Nat, unit = 2 ^ 1074 := ⟨_, rfl⟩
  obtain ⟨places, shift⟩ : ∃ places : Nat, places = 324 := ⟨_, rfl⟩
  obtain ⟨digits, eq, some, lower, upper⟩ :=
    leadingExponent_eq whole (by rw [shift] : 10 ^ places = 10 ^ 324) (units_pos pos)
  have unitPos : (0 : ℚ) < unit := Nat.cast_pos.mpr (unit_pos whole)
  have first : leadingExponent rank = ((digits - 1 : Nat) : Int) - places := by omega
  have last : leadingExponent rank + 1 = (digits : Int) - places := by omega
  rw [last, first, magnitude_eq_div whole, zpow_sub₀ (by norm_num), zpow_sub₀ (by norm_num),
    zpow_natCast, zpow_natCast, zpow_natCast]
  constructor
  · rw [div_le_div_iff₀ (by positivity) unitPos]
    exact_mod_cast lower
  · rw [div_lt_div_iff₀ unitPos (by positivity)]
    exact_mod_cast upper

/-! ## Neighbours -/

/-- A magnitude lies between its neighbours on a grid. -/
theorem reached_spec (rank : Nat) (exponent : Int) :
    reached rank exponent * 10 ^ exponent ≤ magnitude rank ∧
      magnitude rank < (reached rank exponent + 1) * 10 ^ exponent := by
  obtain ⟨unit, whole⟩ : ∃ unit : Nat, unit = 2 ^ 1074 := ⟨_, rfl⟩
  obtain ⟨lower, upper⟩ := reached_bounds whole rank exponent
  have unitPos : (0 : ℚ) < unit := Nat.cast_pos.mpr (unit_pos whole)
  rw [magnitude_eq_div whole, ten_zpow, ← mul_div_assoc, ← mul_div_assoc]
  constructor
  · rw [div_le_div_iff₀ (by positivity) unitPos, mul_assoc, mul_comm (10 ^ _) (unit : ℚ)]
    exact_mod_cast lower
  · rw [div_lt_div_iff₀ unitPos (by positivity), mul_assoc, mul_comm (10 ^ _) (unit : ℚ)]
    exact_mod_cast upper

/-- One of the neighbours is no further than half a step of the grid. -/
theorem near_neighbour (rank : Nat) (exponent : Int) :
    |(⟨reached rank exponent, exponent⟩ : Decimal).value - magnitude rank| ≤ 10 ^ exponent / 2 ∨
      |(⟨reached rank exponent + 1, exponent⟩ : Decimal).value - magnitude rank|
        ≤ 10 ^ exponent / 2 := by
  obtain ⟨lower, upper⟩ := reached_spec rank exponent
  rw [Decimal.value, Decimal.value]
  push_cast
  rcases le_total (magnitude rank - reached rank exponent * 10 ^ exponent) (10 ^ exponent / 2)
    with near | far
  · left
    rw [abs_sub_comm, abs_of_nonneg (by linarith)]
    exact near
  · right
    rw [abs_of_nonneg (by linarith)]
    linarith

/-- With seventeen digits a neighbour reads back. -/
theorem exists_onGrid?_seventeen (tie : Tie) (pos : 0 < rank) :
    ∃ d, onGrid? tie rank (leadingExponent rank - 16) = some d := by
  have lead := (leadingExponent_spec pos).1
  have step : 2 ^ 54 * ((10 : ℚ) ^ (leadingExponent rank - 16) / 2) < magnitude rank := by
    rw [zpow_sub₀ (by norm_num)]
    have : (0 : ℚ) < 10 ^ leadingExponent rank := by positivity
    norm_num
    linarith
  have close : ∀ d : Decimal, |d.value - magnitude rank| ≤ 10 ^ (leadingExponent rank - 16) / 2 →
      rankOfDecimal d = rank := by
    intro d near
    refine (rankOfDecimal_isNearest d).unique (isNearest_of_close ?_)
    linarith
  exact exists_onGrid? tie ((near_neighbour rank _).imp (close _) (close _))

/-! ## The decimal found -/

/-- What the search for the shortest decimal finds. -/
structure IsShort (rank : Nat) (d : Decimal) : Prop where
  reads : rankOfDecimal d = rank
  pos : 0 < d.coefficient
  few : d.coefficient ≤ 10 ^ 17

theorem isShort_of_onGrid? {tie : Tie} (pos : 0 < rank) {place : Nat} (few : place ≤ 16)
    {d : Decimal} (h : onGrid? tie rank (leadingExponent rank - place) = some d) :
    IsShort rank d := by
  obtain ⟨reads, neighbour⟩ := onGrid?_eq_some h
  have reach : reached rank (leadingExponent rank - place) < 10 ^ 17 := by
    have lower := (reached_spec rank (leadingExponent rank - place)).1
    have upper := (leadingExponent_spec pos).2
    have split : (10 : ℚ) ^ (leadingExponent rank + 1)
        = 10 ^ (place + 1) * 10 ^ (leadingExponent rank - place) := by
      rw [← zpow_natCast, ← zpow_add₀ (by norm_num)]
      congr 1
      push_cast
      ring
    have lt : (reached rank (leadingExponent rank - place) : ℚ) < 10 ^ (place + 1) :=
      lt_of_mul_lt_mul_right (split ▸ lower.trans_lt upper) (by positivity)
    have lt : reached rank (leadingExponent rank - place) < 10 ^ (place + 1) := by
      exact_mod_cast lt
    exact lt.trans_le (Nat.pow_le_pow_right (by decide) (by omega))
  refine ⟨reads, Nat.pos_of_ne_zero fun zero => ?_, ?_⟩
  · have value : d.value = magnitude 0 := by
      rw [Decimal.value, zero, Nat.cast_zero, zero_mul, magnitude_zero]
    have := (rankOfDecimal_isNearest d).rank_eq value
    omega
  · rcases neighbour with rfl | rfl
    · exact reach.le
    · exact reach

/-- What is found on the grid of one place after another is short, and something is found. -/
theorem shortest_isShort (tie : Tie) (pos : 0 < rank) : IsShort rank (shortest tie rank) := by
  have found : ∃ d, (List.range 17).findSome? (fun n : Nat =>
      onGrid? tie rank (leadingExponent rank - n)) = some d := by
    refine Option.isSome_iff_exists.mp (List.findSome?_isSome_iff.mpr ⟨16, by decide, ?_⟩)
    exact Option.isSome_iff_exists.mpr (exists_onGrid?_seventeen tie pos)
  obtain ⟨d, eq⟩ := found
  obtain ⟨place, inRange, some⟩ := List.exists_of_findSome?_eq_some eq
  have : shortest tie rank = d := by
    unfold shortest
    dsimp only
    rw [eq, Option.getD_some]
  rw [this]
  exact isShort_of_onGrid? pos (by have := List.mem_range.mp inRange; omega) some

end Binary64

end EvaluationBrowser

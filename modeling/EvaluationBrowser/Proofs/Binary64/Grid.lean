/-
# Decimals around a magnitude

What the search for the shortest decimal asks of each grid, in whole numbers: where the first digit
of a magnitude stands, which multiples of a power of ten are its neighbours, and that a neighbour is
found iff one reads back. The number of units in one is kept as a variable, and so is the power of
ten that the search scales by: nothing here depends on what they are, except that the power of ten
is the larger of the two, so that the least magnitude has a digit before the point once it is
scaled.
-/
import EvaluationBrowser.Binary64.Shortest
import EvaluationBrowser.Proofs.Text.Digits

namespace EvaluationBrowser

theorem Tie.choose_eq_some {tie : Tie} {lowerReads upperReads : Bool} {order : Ordering}
    {lower upper d : Decimal} (h : tie.choose lowerReads upperReads order lower upper = some d) :
    lowerReads = true ∧ d = lower ∨ upperReads = true ∧ d = upper := by
  unfold choose at h
  split at h
  · cases h
  · cases h
    exact .inl ⟨rfl, rfl⟩
  · cases h
    exact .inr ⟨rfl, rfl⟩
  · split at h
    · cases h
      exact .inl ⟨rfl, rfl⟩
    · cases h
      exact .inr ⟨rfl, rfl⟩
    · cases h
      exact .inr ⟨rfl, rfl⟩
    · split at h
      · cases h
        exact .inl ⟨rfl, rfl⟩
      · cases h
        exact .inr ⟨rfl, rfl⟩

theorem Tie.exists_choose (tie : Tie) {lowerReads upperReads : Bool} (order : Ordering)
    (lower upper : Decimal) (h : lowerReads = true ∨ upperReads = true) :
    ∃ d, tie.choose lowerReads upperReads order lower upper = some d := by
  unfold choose
  split
  · rcases h with h | h <;> cases h
  · exact ⟨_, rfl⟩
  · exact ⟨_, rfl⟩
  · split <;> exact ⟨_, rfl⟩

namespace Binary64

variable {unit : Nat} (whole : unit = 2 ^ 1074)

include whole in
theorem unit_pos : 0 < unit := by
  rw [whole]
  decide +kernel

/-! ## The first digit -/

include whole in
theorem leadingExponent_eq {scale : Nat} (tens : scale = 10 ^ 324) {rank : Nat}
    (pos : 0 < units rank) :
    ∃ digits : Nat, leadingExponent rank = digits - 325 ∧ 0 < digits ∧
      10 ^ (digits - 1) * unit ≤ units rank * scale ∧ units rank * scale < 10 ^ digits * unit := by
  have small : unit ≤ scale := by
    rw [whole, tens]
    decide +kernel
  have least : 0 < units rank * scale / unit :=
    Nat.div_pos (Nat.le_trans small (Nat.le_mul_of_pos_left _ pos)) (unit_pos whole)
  obtain ⟨lower, upper⟩ := Text.bounds_of_length least rfl
  refine ⟨_, ?_, Nat.length_toDigits_pos, (Nat.le_div_iff_mul_le (unit_pos whole)).mp lower,
    (Nat.div_lt_iff_lt_mul (unit_pos whole)).mp upper⟩
  rw [leadingExponent, whole, tens]

/-! ## Neighbours -/

/-- How many multiples of the power of ten a magnitude reaches. -/
def reached (rank : Nat) (exponent : Int) : Nat :=
  units rank * 10 ^ (-exponent).toNat / (2 ^ 1074 * 10 ^ exponent.toNat)

include whole in
theorem reached_bounds (rank : Nat) (exponent : Int) :
    reached rank exponent * (unit * 10 ^ exponent.toNat) ≤ units rank * 10 ^ (-exponent).toNat ∧
      units rank * 10 ^ (-exponent).toNat
        < (reached rank exponent + 1) * (unit * 10 ^ exponent.toNat) := by
  have pos : 0 < unit * 10 ^ exponent.toNat :=
    Nat.mul_pos (unit_pos whole) (Nat.pow_pos (by decide))
  rw [reached, ← whole]
  exact ⟨Nat.div_mul_le_self _ _, Nat.lt_mul_of_div_lt (Nat.lt_succ_self _) pos⟩

theorem onGrid?_eq (tie : Tie) (rank : Nat) (exponent : Int) :
    ∃ order, onGrid? tie rank exponent =
      tie.choose (rankOfDecimal ⟨reached rank exponent, exponent⟩ == rank)
        (rankOfDecimal ⟨reached rank exponent + 1, exponent⟩ == rank) order
        ⟨reached rank exponent, exponent⟩ ⟨reached rank exponent + 1, exponent⟩ := by
  unfold onGrid? reached
  exact ⟨_, rfl⟩

/-- What is found on a grid is a neighbour that reads back. -/
theorem onGrid?_eq_some {tie : Tie} {rank : Nat} {exponent : Int} {d : Decimal}
    (h : onGrid? tie rank exponent = some d) :
    rankOfDecimal d = rank ∧
      (d = ⟨reached rank exponent, exponent⟩ ∨ d = ⟨reached rank exponent + 1, exponent⟩) := by
  obtain ⟨order, eq⟩ := onGrid?_eq tie rank exponent
  rw [eq] at h
  rcases Tie.choose_eq_some h with ⟨reads, rfl⟩ | ⟨reads, rfl⟩
  · exact ⟨eq_of_beq reads, .inl rfl⟩
  · exact ⟨eq_of_beq reads, .inr rfl⟩

/-- If a neighbour reads back, one is found. -/
theorem exists_onGrid? (tie : Tie) {rank : Nat} {exponent : Int}
    (h : rankOfDecimal ⟨reached rank exponent, exponent⟩ = rank ∨
      rankOfDecimal ⟨reached rank exponent + 1, exponent⟩ = rank) :
    ∃ d, onGrid? tie rank exponent = some d := by
  obtain ⟨order, eq⟩ := onGrid?_eq tie rank exponent
  rw [eq]
  exact Tie.exists_choose tie order _ _ (h.imp beq_iff_eq.mpr beq_iff_eq.mpr)

end Binary64

end EvaluationBrowser

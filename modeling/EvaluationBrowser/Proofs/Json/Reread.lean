/-
# Numbers written and read again

A finite number is written as a literal that spells its shortest decimal. The decimal is nearer to
that number than to any other, but reading the literal rounds more than once, so what comes back is
the number or another one a few ranks away. It is the number itself wherever the digits written fit
53 bits and the power of ten is a number: that takes in every number of up to fifteen digits that is
neither very large nor very small.
-/
import EvaluationBrowser.Proofs.Binary64.Shortest
import EvaluationBrowser.Proofs.Json.Literal
import EvaluationBrowser.Proofs.Json.Scale

namespace EvaluationBrowser

namespace Binary64

/-- The number that is read where the number was written. What has no literal stays as it is. -/
def reread (x : Binary64) : Binary64 :=
  match Json.Literal.ofBinary64? x with
  | none => x
  | some l =>
    match l.number with
    | .ok n => n.toBinary64
    | .error _ => x

end Binary64

namespace Json

open Binary64

/-! ## The decimal that is written -/

variable {d : Decimal} {rank : Nat}

theorem Literal.Spells.value_eq {l : Literal} {negative : Bool} (h : l.Spells negative d) :
    (l.coefficient * 10 ^ l.places : ℚ) = d.value := by
  obtain ⟨digits, zeros, more, coefficient, written, places⟩ := h.same
  have split : (10 : ℚ) ^ more * 10 ^ l.places = 10 ^ zeros * 10 ^ d.exponent := by
    rw [← zpow_natCast, ← zpow_natCast, ← zpow_add₀ (by norm_num), ← zpow_add₀ (by norm_num)]
    congr 1
    omega
  rw [Decimal.value, coefficient, written]
  push_cast
  rw [mul_assoc, split, mul_assoc]

theorem natAbs_exponent_le (short : IsShort rank d) (positive : 0 < rank)
    (lt : rank < rankLimit) : d.exponent.natAbs ≤ 616 := by
  have near := short.reads ▸ rankOfDecimal_isNearest d
  rw [Decimal.value] at near
  obtain ⟨n, eq | eq⟩ := d.exponent.eq_nat_or_neg
  · rw [eq, zpow_natCast] at near
    have := places_le short.pos near lt
    omega
  · rw [eq, zpow_neg, zpow_natCast, ← div_eq_mul_inv] at near
    have := places_le_of_pos short.few near positive
    omega

theorem natAbs_point_lt (short : IsShort rank d) (positive : 0 < rank) (lt : rank < rankLimit) :
    (d.point - 1).natAbs < 2 ^ 31 := by
  have exponent := natAbs_exponent_le short positive lt
  have digits := length_toDigits_le short.few
  rw [Decimal.point]
  omega

theorem Literal.ofMagnitude_spells (negative : Bool) (positive : 0 < rank)
    (lt : rank < rankLimit) :
    (Literal.ofMagnitude negative rank).Spells negative (shortest .even rank) := by
  have short := shortest_isShort .even positive
  rw [Literal.ofMagnitude, if_neg positive.ne']
  exact Literal.ofDecimal_spells negative short.few short.pos (natAbs_point_lt short positive lt)

/-! ## The number that is read -/

/-- What is read where the number of this sign and rank was written. -/
structure Rereads (negative : Bool) (rank s : Nat) : Prop where
  number : (Literal.ofMagnitude negative rank).number
    = .ok (.real (Binary64.ofRank negative s))
  inRange : s < rankLimit
  close : Close 5 rank s
  closer : -308 ≤ (Literal.ofMagnitude negative rank).places → Close 2 rank s
  exact : (Literal.ofMagnitude negative rank).coefficient ≤ 2 ^ 53 →
    (Literal.ofMagnitude negative rank).places.natAbs ≤ 22 → s = rank

/-- Zero is read as zero. -/
theorem Rereads.eq_zero {negative : Bool} {s : Nat} (h : Rereads negative rank s)
    (zero : rank = 0) : s = 0 := by
  subst zero
  have written : Literal.ofMagnitude negative 0 = ⟨negative, ['0'], some ['0'], none⟩ := if_pos rfl
  refine h.exact ?_ ?_
  · rw [written]
    exact Nat.zero_le _
  · rw [written]
    exact (show 1 ≤ 22 by decide)

theorem Literal.Spells.number_eq {l : Literal} {negative : Bool} {s : Nat}
    (h : l.Spells negative d) (scaled : scale? l.coefficient l.places = some s) :
    l.number = .ok (.real (Binary64.ofRank negative s)) := by
  have few : l.coefficient < 2 ^ 64 := Nat.lt_of_le_of_lt h.few (by decide)
  rw [← h.sign]
  exact number_of_scaled h.isReal few h.small scaled

theorem scale?_zero : scale? 0 (-1) = some 0 := by
  have quotient : quotientRank (nearestRank 0 1) (tenRank 1) = 0 := by decide +kernel
  have down : scale? 0 (-1) = _ := scale?_neg 1 (by decide)
  rwa [scaleDown, if_pos (by decide), quotient] at down

theorem rereads_zero (negative : Bool) : Rereads negative 0 0 where
  number := by
    rw [Literal.ofMagnitude, if_pos rfl]
    exact Literal.number_of_scaled (.inl rfl) (show 0 < 2 ^ 64 by decide) nofun scale?_zero
  inRange := by decide
  close := ⟨Nat.zero_le _, Nat.zero_le _⟩
  closer _ := ⟨Nat.zero_le _, Nat.zero_le _⟩
  exact _ _ := rfl

theorem rereads_of_room (negative : Bool) (positive : 0 < rank) (room : rank + 2 < rankLimit) :
    ∃ s, Rereads negative rank s := by
  have spells := Literal.ofMagnitude_spells negative positive (by omega)
  have short := shortest_isShort .even positive
  have near := short.reads ▸ rankOfDecimal_isNearest (shortest .even rank)
  rw [← spells.value_eq] at near
  have pos : 0 < (Literal.ofMagnitude negative rank).coefficient := by
    obtain ⟨digits, zeros, more, coefficient, written, places⟩ := spells.same
    have := short.pos
    rw [coefficient] at this
    rw [written]
    exact Nat.mul_pos (Nat.pos_of_mul_pos_right this) (Nat.pow_pos (by decide))
  obtain ⟨s, scaled⟩ := exists_scaledNear pos spells.few near positive room
  exact ⟨s, spells.number_eq scaled.scaled, scaled.inRange, scaled.close, scaled.closer,
    scaled.exact⟩

/-- The sign has no part in the digits and their places. -/
theorem ofMagnitude_unsigned (negative : Bool) (rank : Nat) :
    (Literal.ofMagnitude negative rank).coefficient
        = (Literal.ofMagnitude false rank).coefficient ∧
      (Literal.ofMagnitude negative rank).places = (Literal.ofMagnitude false rank).places := by
  rw [Literal.ofMagnitude, Literal.ofMagnitude]
  split
  · exact ⟨rfl, rfl⟩
  · rw [Literal.ofDecimal, Literal.ofDecimal]
    dsimp only
    split
    · exact ⟨rfl, rfl⟩
    · exact ⟨rfl, rfl⟩

/-- The two largest numbers are both read as the largest one. -/
theorem rereads_of_top (negative : Bool) (top : rankLimit ≤ rank + 2) (lt : rank < rankLimit) :
    Rereads negative rank (rankLimit - 1) := by
  have positive : 0 < rank := by
    have : 2 < rankLimit := by decide
    omega
  have spells := Literal.ofMagnitude_spells negative positive lt
  have written : scale? (Literal.ofMagnitude negative rank).coefficient
        (Literal.ofMagnitude negative rank).places = some (rankLimit - 1) ∧
      2 ^ 53 < (Literal.ofMagnitude negative rank).coefficient := by
    obtain ⟨coefficient, places⟩ := ofMagnitude_unsigned negative rank
    rw [coefficient, places]
    obtain rfl | rfl : rank = rankLimit - 1 ∨ rank = rankLimit - 2 := by omega
    · decide +kernel
    · decide +kernel
  have near : Close 2 rank (rankLimit - 1) := by
    constructor <;> omega
  exact ⟨spells.number_eq written.1, by omega, near.mono (by decide), fun _ => near,
    fun few => absurd few (Nat.not_le_of_lt written.2)⟩

theorem exists_rereads (negative : Bool) (lt : rank < rankLimit) :
    ∃ s, Rereads negative rank s := by
  rcases Nat.eq_zero_or_pos rank with rfl | positive
  · exact ⟨0, rereads_zero negative⟩
  · rcases Nat.lt_or_ge (rank + 2) rankLimit with room | top
    · exact rereads_of_room negative positive room
    · exact ⟨_, rereads_of_top negative top lt⟩

theorem Literal.ofMagnitude_isWellFormed (negative : Bool) (lt : rank < rankLimit) :
    (Literal.ofMagnitude negative rank).IsWellFormed := by
  rcases Nat.eq_zero_or_pos rank with rfl | positive
  · rw [ofMagnitude, if_pos rfl]
    refine ⟨⟨'0', [], rfl, fun _ => rfl⟩, Text.allDigits_replicate_zero 1, ?_, nofun⟩
    intro ds h
    cases h
    exact ⟨List.cons_ne_nil _ _, Text.allDigits_replicate_zero 1⟩
  · exact (ofMagnitude_spells negative positive lt).wellFormed

/-- A finite number is read as a finite number of its sign. -/
theorem exists_reread (negative : Bool) (rank : Fin rankLimit) :
    ∃ s : Fin rankLimit, reread (.finite negative rank) = .finite negative s ∧
      Rereads negative rank s := by
  obtain ⟨s, rereads⟩ := exists_rereads negative rank.isLt
  refine ⟨⟨s, rereads.inRange⟩, ?_, rereads⟩
  rw [reread, Literal.ofBinary64?]
  dsimp only
  rw [rereads.number]
  exact dif_pos rereads.inRange

end Json

end EvaluationBrowser

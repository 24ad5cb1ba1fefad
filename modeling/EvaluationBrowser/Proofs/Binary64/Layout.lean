/-
# Digits in their places

The digits of a decimal are those of its coefficient without the zeros at the end, so they begin
with no zero. Laid out around a point they count what they count without one, times a power of ten
where zeros fill the places before the point.
-/
import EvaluationBrowser.Binary64.Positional
import EvaluationBrowser.Proofs.Text.Digits

namespace EvaluationBrowser

open Text (AllDigits)

/-! ## The digits of a decimal -/

namespace Decimal

variable (d : Decimal)

theorem allDigits_digits : AllDigits d.digits := by
  obtain ⟨zeros, eq⟩ := Text.exists_dropTrailing '0' (Nat.toDigits 10 d.coefficient)
  have all := Text.allDigits_toDigits d.coefficient
  rw [eq] at all
  exact all.sublist (List.sublist_append_left _ _)

/-- What is cut off are zeros, and they count as places. -/
theorem exists_zeros :
    ∃ zeros : Nat, d.coefficient = Nat.ofDigitChars 10 d.digits 0 * 10 ^ zeros ∧
      d.point = d.digits.length + zeros + d.exponent := by
  obtain ⟨zeros, eq⟩ := Text.exists_dropTrailing '0' (Nat.toDigits 10 d.coefficient)
  refine ⟨zeros, ?_, ?_⟩
  · have value := Nat.ofDigitChars_ten_toDigits (n := d.coefficient)
    rw [eq, Nat.ofDigitChars_append, Nat.ofDigitChars_replicate_zero, Nat.mul_comm] at value
    exact value.symm
  · have length := congrArg List.length eq
    rw [List.length_append, List.length_replicate] at length
    rw [point, length, Int.natCast_add]
    rfl

variable {d}

theorem digits_eq_cons (pos : 0 < d.coefficient) :
    ∃ first others, d.digits = first :: others ∧ first ≠ '0' := by
  obtain ⟨zeros, eq⟩ := Text.exists_dropTrailing '0' (Nat.toDigits 10 d.coefficient)
  change _ = d.digits ++ _ at eq
  cases digits : d.digits with
  | nil =>
      rw [digits, List.nil_append] at eq
      have some : 0 < (Nat.toDigits 10 d.coefficient).length := Nat.length_toDigits_pos
      rw [eq, List.length_replicate] at some
      obtain ⟨more, rfl⟩ : ∃ more, zeros = more + 1 := ⟨zeros - 1, by omega⟩
      exact absurd rfl (Text.first_ne_zero pos (eq.trans List.replicate_succ))
  | cons first others =>
      rw [digits, List.cons_append] at eq
      exact ⟨first, others, rfl, Text.first_ne_zero pos eq⟩

end Decimal

/-! ## The point between them -/

/-- What a layout says, if its digits begin with no zero. -/
structure Layout.IsPlaced (l : Layout) (digits : List Char) (point : Int) : Prop where
  count : Nat.ofDigitChars 10 (l.whole ++ l.fraction) 0
    = Nat.ofDigitChars 10 digits 0 * 10 ^ (point - digits.length).toNat
  places : l.fraction.length = (digits.length - point).toNat
  whole : ∃ c cs, l.whole = c :: cs ∧ (c = '0' → cs = [])
  allWhole : AllDigits l.whole
  allFraction : AllDigits l.fraction

theorem Layout.place_isPlaced {digits : List Char} (point : Int) {first : Char}
    {others : List Char} (eq : digits = first :: others) (nonzero : first ≠ '0')
    (all : AllDigits digits) : (Layout.place digits point).IsPlaced digits point := by
  rw [place]
  split
  · refine ⟨?_, ?_, ⟨'0', [], rfl, fun _ => rfl⟩,
      Text.allDigits_replicate_zero 1, ?_⟩
    · rw [show (point - digits.length).toNat = 0 by omega, List.singleton_append,
        Nat.ofDigitChars_cons, Nat.ofDigitChars_append, Nat.ofDigitChars_replicate_zero,
        Nat.pow_zero, Nat.mul_one]
      rfl
    · rw [List.length_append, List.length_replicate]
      omega
    · exact (Text.allDigits_replicate_zero _).append all
  · have before : (digits.take point.toNat).length = min point.toNat digits.length :=
      List.length_take
    dsimp only
    refine ⟨?_, ?_, ?_, ?_, ?_⟩
    · rcases Nat.le_total point.toNat digits.length with inside | beyond
      · rw [before, show point.toNat - min point.toNat digits.length = 0 by omega,
          show (point - digits.length).toNat = 0 by omega, List.replicate_zero, List.append_nil,
          List.take_append_drop, Nat.pow_zero, Nat.mul_one]
      · rw [List.take_of_length_le beyond, List.drop_of_length_le beyond, List.append_nil,
          Nat.ofDigitChars_append, Nat.ofDigitChars_replicate_zero, Nat.mul_comm]
        congr 2
        omega
    · rw [List.length_drop]
      omega
    · obtain ⟨more, eq'⟩ : ∃ more, point.toNat = more + 1 := ⟨point.toNat - 1, by omega⟩
      rw [eq, eq', List.take_succ_cons]
      exact ⟨first, _, List.cons_append, fun zero => absurd zero nonzero⟩
    · exact (all.sublist (List.take_sublist _ _)).append (Text.allDigits_replicate_zero _)
    · exact all.sublist (List.drop_sublist _ _)

end EvaluationBrowser

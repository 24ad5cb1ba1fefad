/-
# What number a literal stands for

A literal spells a coefficient, its digits as one whole number, and a number of places by which the
point is moved. As long as the coefficient stays below 2⁶⁴ reading drops none of its digits, so the
number of a literal is the scaled coefficient. A shortest decimal is written in one of three forms,
and in each of them the literal spells that very decimal.
-/
import EvaluationBrowser.Json.Literal
import EvaluationBrowser.Proofs.Binary64.Layout

namespace EvaluationBrowser

open Text (AllDigits)

namespace Json

/-! ## What a literal spells -/

/-- The digits as one number. -/
def Literal.coefficient (l : Literal) : Nat :=
  Nat.ofDigitChars 10 (l.whole ++ l.fraction.getD []) 0

def Exponent.amount (e : Exponent) : Nat := Nat.ofDigitChars 10 e.digits 0

def Literal.shift (l : Literal) : Int :=
  match l.exponent with
  | none => 0
  | some e => if e.sign = .minus then -e.amount else e.amount

/-- The power of ten that the coefficient is multiplied by. -/
def Literal.places (l : Literal) : Int := l.shift - (l.fraction.getD []).length

/-- The form that readers of literals ask for. -/
structure Literal.IsWellFormed (l : Literal) : Prop where
  whole : ∃ d ds, l.whole = d :: ds ∧ (d = '0' → ds = [])
  digits : AllDigits l.whole
  fraction : ∀ ds, l.fraction = some ds → ds ≠ [] ∧ AllDigits ds
  exponent : ∀ e, l.exponent = some e → e.digits ≠ [] ∧ AllDigits e.digits

/-! ## Reading the number -/

/-- Digits are gathered to the last if their number stays below the limit. -/
theorem gather_of_lt {limit n : Nat} {ds : List Char} (h : Nat.ofDigitChars 10 ds n < limit) :
    gather limit n ds = (Nat.ofDigitChars 10 ds n, []) := by
  induction ds generalizing n with
  | nil => rfl
  | cons d ds ih =>
      have next : Nat.ofDigitChars 10 (d :: ds) n
          = Nat.ofDigitChars 10 ds (n * 10 + Text.digitValue d) := by
        rw [Nat.ofDigitChars_cons, Nat.mul_comm 10 n]
        rfl
      rw [next] at h ⊢
      have small := Nat.lt_of_le_of_lt (Text.le_ofDigitChars _ ds) h
      rw [gather, if_pos small]
      exact ih h

theorem Exponent.value_eq {e : Exponent} (small : e.amount < 2 ^ 31) :
    e.value = (if e.sign = .minus then -(e.amount : Int) else e.amount, []) := by
  unfold value
  rw [gather_of_lt small]
  rfl

/-- A literal that is no integer stands for its scaled coefficient. -/
theorem Literal.number_of_scaled {l : Literal} {rank : Nat}
    (isReal : l.fraction.isSome = true ∨ l.exponent.isSome = true)
    (few : l.coefficient < 2 ^ 64) (small : ∀ e, l.exponent = some e → e.amount < 2 ^ 31)
    (scaled : scale? l.coefficient l.places = some rank) :
    l.number = .ok (.real (Binary64.ofRank l.negative rank)) := by
  have wholeFew : Nat.ofDigitChars 10 l.whole 0 < 2 ^ 64 := by
    refine Nat.lt_of_le_of_lt ?_ few
    rw [coefficient, Nat.ofDigitChars_append]
    exact Text.le_ofDigitChars _ _
  have rest : gather (2 ^ 64) (Nat.ofDigitChars 10 l.whole 0) (l.fraction.getD [])
      = (l.coefficient, []) := by
    rw [coefficient, Nat.ofDigitChars_append]
    refine gather_of_lt ?_
    rwa [← Nat.ofDigitChars_append]
  have noInteger : (l.fraction.isNone && l.exponent.isNone) = false := by
    rcases isReal with h | h
    · rw [← Option.not_isSome, h, Bool.not_true, Bool.false_and]
    · rw [← Option.not_isSome, ← Option.not_isSome, h, Bool.not_true, Bool.and_false]
  have shifted : (l.exponent.map Exponent.value).getD (0, []) = (l.shift, []) := by
    unfold shift
    cases eq : l.exponent with
    | none => rfl
    | some e => rw [Option.map_some, Option.getD_some, Exponent.value_eq (small e eq)]
  have places :
      ((0 : Nat) : Int) - ((l.fraction.getD []).length - 0 : Nat) + l.shift = l.places := by
    rw [Literal.places]
    omega
  unfold number
  simp only [gather_of_lt wholeFew, noInteger, Bool.false_and, Bool.false_eq_true, if_false, rest,
    List.length_nil, shifted, places, scaled]

/-- A literal without a fraction and an exponent is an integer if 64 bits hold it. -/
theorem Literal.number_of_natural {l : Literal} (unsigned : l.negative = false)
    (noFraction : l.fraction = none) (noExponent : l.exponent = none)
    (few : l.coefficient < 2 ^ 64) : l.number = .ok (.integer l.coefficient) := by
  have gathered : gather (2 ^ 64) 0 l.whole = (l.coefficient, []) := by
    rw [coefficient, noFraction, Option.getD_none, List.append_nil] at few ⊢
    exact gather_of_lt few
  unfold number
  rw [gathered]
  simp [unsigned, noFraction, noExponent]

/-- What is gathered to the last digit stays below the limit. -/
theorem lt_of_gather {limit n : Nat} {ds : List Char} (few : n < limit)
    (all : (gather limit n ds).2 = []) : Nat.ofDigitChars 10 ds n < limit := by
  induction ds generalizing n with
  | nil => exact few
  | cons d ds ih =>
      rw [gather] at all
      by_cases small : n * 10 + Text.digitValue d < limit
      · rw [if_pos small] at all
        rw [Nat.ofDigitChars_cons, Nat.mul_comm 10 n]
        exact ih small all
      · rw [if_neg small] at all
        cases all

/-- Nothing but digits. -/
def Literal.IsUnsigned (l : Literal) : Prop :=
  l.negative = false ∧ l.fraction = none ∧ l.exponent = none

instance (l : Literal) : Decidable l.IsUnsigned := inferInstanceAs (Decidable (_ ∧ _ ∧ _))

/-- Only digits with or without a sign make an integer, and all of them must fit. -/
theorem Literal.of_number_eq_integer {l : Literal} {k : Int}
    (number : l.number = .ok (.integer k)) :
    l.fraction = none ∧ l.exponent = none ∧ (gather (2 ^ 64) 0 l.whole).2 = [] ∧
      (l.negative = true → (gather (2 ^ 64) 0 l.whole).1 ≠ 0) ∧
      k = if l.negative then -((gather (2 ^ 64) 0 l.whole).1 : Int)
        else (gather (2 ^ 64) 0 l.whole).1 := by
  unfold Literal.number at number
  generalize gather (2 ^ 64) 0 l.whole = gathered at number ⊢
  obtain ⟨whole, unfit⟩ := gathered
  dsimp only at number ⊢
  by_cases integer : (l.fraction.isNone && l.exponent.isNone && unfit.isEmpty &&
      !(l.negative && (whole == 0 || decide (2 ^ 63 < whole)))) = true
  · rw [if_pos integer] at number
    cases number
    simp only [Bool.and_eq_true, Option.isNone_iff_eq_none, List.isEmpty_iff, Bool.not_eq_true',
      Bool.and_eq_false_imp, Bool.or_eq_false_iff, beq_eq_false_iff_ne] at integer
    obtain ⟨⟨⟨noFraction, noExponent⟩, fits⟩, sign⟩ := integer
    exact ⟨noFraction, noExponent, fits, fun negative => (sign negative).1, rfl⟩
  · rw [if_neg integer] at number
    -- every other literal is a floating-point number or out of range
    generalize gather (2 ^ 64) whole (l.fraction.getD []) = gathered at number
    generalize (l.exponent.map Exponent.value).getD (0, []) = read at number
    obtain ⟨coefficient, dropped⟩ := gathered
    obtain ⟨exponent, unread⟩ := read
    dsimp only at number
    cases unread with
    | nil =>
        dsimp only at number
        generalize scale? _ _ = scaled at number
        cases scaled <;> cases number
    | cons _ unread =>
        dsimp only at number
        by_cases small : coefficient = 0 ∨ l.exponent.map Exponent.sign = some .minus
        · rw [if_pos small] at number
          cases number
        · rw [if_neg small] at number
          cases number

/-- The literals of the integers that are not below zero; `-0` is none of them. -/
theorem Literal.number_eq_natural_iff {l : Literal} {k : Int} :
    l.number = .ok (.integer k) ∧ 0 ≤ k ↔
      l.IsUnsigned ∧ l.coefficient < 2 ^ 64 ∧ k = l.coefficient := by
  constructor
  · rintro ⟨number, notBelow⟩
    obtain ⟨noFraction, noExponent, fits, nonzero, value⟩ := of_number_eq_integer number
    have unsigned : l.negative = false := by
      refine Bool.eq_false_iff.mpr fun negative => ?_
      have := nonzero negative
      rw [if_pos negative] at value
      omega
    have few : l.coefficient < 2 ^ 64 := by
      rw [coefficient, noFraction, Option.getD_none, List.append_nil]
      exact lt_of_gather (by decide) fits
    have read := number_of_natural unsigned noFraction noExponent few
    rw [number] at read
    cases read
    exact ⟨⟨unsigned, noFraction, noExponent⟩, few, rfl⟩
  · rintro ⟨⟨unsigned, noFraction, noExponent⟩, few, rfl⟩
    exact ⟨number_of_natural unsigned noFraction noExponent few, Int.natCast_nonneg _⟩

theorem Literal.ofNat_isWellFormed (n : Nat) : (Literal.ofNat n).IsWellFormed :=
  ⟨Text.toDigits_eq_cons n, Text.allDigits_toDigits n, nofun, nofun⟩

theorem Literal.coefficient_ofNat (n : Nat) : (Literal.ofNat n).coefficient = n := by
  change Nat.ofDigitChars 10 (Nat.toDigits 10 n ++ []) 0 = n
  rw [List.append_nil, Nat.ofDigitChars_ten_toDigits]

/-- A natural number below 2⁶⁴ is read as itself. -/
theorem Literal.number_ofNat {n : Nat} (few : n < 2 ^ 64) :
    (Literal.ofNat n).number = .ok (.integer n) := by
  have coefficient := coefficient_ofNat n
  rw [number_of_natural rfl rfl rfl (coefficient.symm ▸ few), coefficient]

/-! ## Writing a decimal -/

/-- The literal spells the decimal, up to zeros at the end that count as places. -/
structure Literal.Spells (l : Literal) (negative : Bool) (d : Decimal) : Prop where
  sign : l.negative = negative
  isReal : l.fraction.isSome = true ∨ l.exponent.isSome = true
  wellFormed : l.IsWellFormed
  same : ∃ digits zeros more : Nat, d.coefficient = digits * 10 ^ zeros ∧
    l.coefficient = digits * 10 ^ more ∧ l.places + more = d.exponent + zeros
  few : l.coefficient ≤ 10 ^ 17
  small : ∀ e, l.exponent = some e → e.amount < 2 ^ 31

/-- A sign and an amount make up the exponent they were taken from. -/
theorem signed_natAbs (exponent : Int) :
    (if (if exponent < 0 then ExponentSign.minus else .plus) = .minus
      then -(exponent.natAbs : Int) else exponent.natAbs) = exponent := by
  by_cases below : exponent < 0
  · rw [if_pos below, if_pos rfl]
    omega
  · rw [if_neg below, if_neg nofun]
    omega

section OfDecimal

variable {d : Decimal} (negative : Bool)

/-- A layout without a fraction takes one more zero, after the point. -/
theorem Literal.spells_whole {l : Layout} (placed : l.IsPlaced d.digits d.point)
    (empty : l.fraction = []) (high : d.point ≤ 16) :
    Literal.Spells ⟨negative, l.whole, some ['0'], none⟩ negative d := by
  obtain ⟨zeros, value, point⟩ := d.exists_zeros
  have below := Text.ofDigitChars_lt d.allDigits_digits
  have enough : (d.digits.length : Int) ≤ d.point := by
    have := placed.places
    rw [empty, List.length_nil] at this
    omega
  have count := placed.count
  rw [empty, List.append_nil] at count
  have coefficient : Nat.ofDigitChars 10 (l.whole ++ ['0']) 0
      = Nat.ofDigitChars 10 d.digits 0 * 10 ^ ((d.point - d.digits.length).toNat + 1) := by
    rw [Nat.ofDigitChars_append, count, Nat.pow_succ, ← Nat.mul_assoc, Nat.mul_comm _ 10]
    rfl
  refine ⟨rfl, .inl rfl, ⟨placed.whole, placed.allWhole, ?_, fun _ h => nomatch h⟩,
    ⟨_, zeros, _, value, coefficient, ?_⟩, ?_, fun _ h => nomatch h⟩
  · intro ds h
    cases h
    exact ⟨List.cons_ne_nil _ _, Text.allDigits_replicate_zero 1⟩
  · change (0 : Int) - (1 : Nat) + _ = _
    omega
  · change Nat.ofDigitChars 10 (l.whole ++ ['0']) 0 ≤ _
    rw [coefficient]
    calc Nat.ofDigitChars 10 d.digits 0 * 10 ^ ((d.point - d.digits.length).toNat + 1)
        ≤ 10 ^ d.digits.length * 10 ^ ((d.point - d.digits.length).toNat + 1) :=
          Nat.mul_le_mul_right _ (Nat.le_of_lt below)
      _ = 10 ^ (d.digits.length + ((d.point - d.digits.length).toNat + 1)) :=
          (Nat.pow_add _ _ _).symm
      _ ≤ 10 ^ 17 := Nat.pow_le_pow_right (by decide) (by omega)

variable (few : d.coefficient ≤ 10 ^ 17)

include few

/-- What is cut off the digits only makes their number smaller. -/
theorem digits_le : Nat.ofDigitChars 10 d.digits 0 ≤ 10 ^ 17 := by
  obtain ⟨zeros, value, -⟩ := d.exists_zeros
  exact Nat.le_trans (Nat.le_mul_of_pos_right _ (Nat.pow_pos (by decide))) (value ▸ few)

theorem Literal.spells_fraction {l : Layout} (placed : l.IsPlaced d.digits d.point)
    (some : l.fraction ≠ []) :
    Literal.Spells ⟨negative, l.whole, Option.some l.fraction, none⟩ negative d := by
  obtain ⟨zeros, value, point⟩ := d.exists_zeros
  have places := placed.places
  have short : d.point < d.digits.length := by
    have := List.length_pos_iff.mpr some
    omega
  have coefficient : Nat.ofDigitChars 10 (l.whole ++ l.fraction) 0
      = Nat.ofDigitChars 10 d.digits 0 * 10 ^ 0 := by
    rw [placed.count, show (d.point - d.digits.length).toNat = 0 by omega]
  refine ⟨rfl, .inl rfl, ⟨placed.whole, placed.allWhole, ?_, fun _ h => nomatch h⟩,
    ⟨_, zeros, 0, value, coefficient, ?_⟩, ?_, fun _ h => nomatch h⟩
  · intro ds h
    cases h
    exact ⟨some, placed.allFraction⟩
  · change (0 : Int) - l.fraction.length + _ = _
    omega
  · change Nat.ofDigitChars 10 (l.whole ++ l.fraction) 0 ≤ _
    rw [coefficient, Nat.pow_zero, Nat.mul_one]
    exact digits_le few

variable (pos : 0 < d.coefficient)

include pos

theorem Literal.spells_in_places (low : -5 ≤ d.point - 1) (high : d.point - 1 ≤ 15) :
    (Literal.ofDecimal negative d).Spells negative d := by
  obtain ⟨first, others, eq, nonzero⟩ := Decimal.digits_eq_cons pos
  have placed : d.layout.IsPlaced d.digits d.point :=
    Layout.place_isPlaced d.point eq nonzero d.allDigits_digits
  unfold ofDecimal
  rw [if_pos ⟨low, high⟩]
  by_cases empty : d.layout.fraction = []
  · simp only [empty, List.isEmpty_nil, if_true]
    exact spells_whole negative placed empty (by omega)
  · simp only [List.isEmpty_iff, empty, if_false]
    exact spells_fraction negative few placed empty

theorem Literal.spells_with_exponent (far : ¬(-5 ≤ d.point - 1 ∧ d.point - 1 ≤ 15))
    (bound : (d.point - 1).natAbs < 2 ^ 31) :
    (Literal.ofDecimal negative d).Spells negative d := by
  obtain ⟨zeros, value, point⟩ := d.exists_zeros
  obtain ⟨first, others, eq, nonzero⟩ := Decimal.digits_eq_cons pos
  have all : AllDigits (first :: others) := eq ▸ d.allDigits_digits
  have amount : Nat.ofDigitChars 10 (Nat.toDigits 10 (d.point - 1).natAbs) 0
      = (d.point - 1).natAbs := Nat.ofDigitChars_ten_toDigits
  unfold ofDecimal
  rw [if_neg far, eq]
  rw [eq, List.length_cons] at point
  rw [eq] at value
  generalize firstPlace : d.point - 1 = lead at *
  have fraction : (if others.isEmpty then none else some others).getD [] = others := by
    cases others with
    | nil => rfl
    | cons _ _ => rfl
  have coefficient : Nat.ofDigitChars 10
      ([first] ++ (if others.isEmpty then none else some others).getD []) 0
        = Nat.ofDigitChars 10 (first :: others) 0 * 10 ^ 0 := by
    rw [fraction, List.singleton_append, Nat.pow_zero, Nat.mul_one]
  refine ⟨rfl, .inr rfl,
    ⟨⟨first, [], rfl, fun _ => rfl⟩, all.sublist (by simp), ?_, ?_⟩,
    ⟨_, zeros, 0, value, coefficient, ?_⟩, ?_, ?_⟩
  · intro ds h
    cases others with
    | nil => cases h
    | cons second others =>
        cases h
        exact ⟨List.cons_ne_nil _ _, all.sublist (List.sublist_cons_self _ _)⟩
  · intro e h
    cases h
    exact ⟨List.ne_nil_of_length_pos Nat.length_toDigits_pos, Text.allDigits_toDigits _⟩
  · rw [places, Literal.shift]
    simp only [List.drop_one, List.tail_cons, Exponent.amount, amount, signed_natAbs, fraction]
    omega
  · change Nat.ofDigitChars 10 ([first] ++ _) 0 ≤ _
    rw [List.drop_one, List.tail_cons, coefficient, Nat.pow_zero, Nat.mul_one, ← eq]
    exact digits_le few
  · intro e h
    cases h
    rw [Exponent.amount, amount]
    exact bound

theorem Literal.ofDecimal_spells (bound : (d.point - 1).natAbs < 2 ^ 31) :
    (Literal.ofDecimal negative d).Spells negative d := by
  by_cases near : -5 ≤ d.point - 1 ∧ d.point - 1 ≤ 15
  · exact spells_in_places negative few pos near.1 near.2
  · exact spells_with_exponent negative few pos near bound

end OfDecimal

end Json

end EvaluationBrowser

/-
# Positional notation reads back

Shown in positional notation, a number is told by its text: reading the text gives the number again,
whichever it is, with the sign of a zero, the infinities and NaN included. The digits are those of
the shortest decimal, laid out around a point. Read as one number and scaled once by the places
behind the point, they are that decimal again, and the decimal is nearer to its own number than to
any other.

Reading gives up on decimals that are very far from one, without looking at their digits. No
positive magnitude has a decimal as small as that (`places_le_of_isNearest`).
-/
import EvaluationBrowser.Binary64.Spelling
import EvaluationBrowser.Proofs.Binary64.Layout
import EvaluationBrowser.Proofs.Binary64.Shortest

namespace EvaluationBrowser

open Text (AllDigits)

/-- The digits around the point count the decimal, once they are scaled by the places behind it. -/
theorem Layout.IsPlaced.value_eq {l : Layout} {d : Decimal} (placed : l.IsPlaced d.digits d.point) :
    (Nat.ofDigitChars 10 (l.whole ++ l.fraction) 0 / 10 ^ l.fraction.length : ℚ) = d.value := by
  obtain ⟨zeros, value, point⟩ := d.exists_zeros
  have shift : d.point - d.digits.length = zeros + d.exponent := by omega
  have scaled := Binary64.ten_zpow (d.point - d.digits.length)
  rw [neg_sub] at scaled
  rw [placed.count, placed.places, Decimal.value, value, Nat.cast_mul, Nat.cast_mul, Nat.cast_pow,
    Nat.cast_pow, Nat.cast_ofNat, mul_div_assoc, ← scaled, shift, zpow_add₀ (by norm_num),
    zpow_natCast, mul_assoc]

namespace Binary64

theorem layout_isPlaced (tie : Tie) {rank : Nat} (pos : 0 < rank) :
    (shortest tie rank).layout.IsPlaced (shortest tie rank).digits (shortest tie rank).point := by
  obtain ⟨first, others, digits, nonzero⟩ :=
    Decimal.digits_eq_cons (shortest_isShort tie pos).pos
  exact Layout.place_isPlaced _ digits nonzero (Decimal.allDigits_digits _)

/-! ## Reading a layout -/

theorem digitsValue_eq (ds : List Char) : digitsValue ds = Nat.ofDigitChars 10 ds 0 := by
  unfold digitsValue Nat.ofDigitChars
  congr 1
  funext n d
  rw [Nat.mul_comm]
  rfl

/-- A fraction stands behind a point, and where there is none nothing stands. -/
theorem exists_fraction {l : Layout} (all : AllDigits l.fraction) :
    ∃ tail, (if l.fraction.isEmpty then l.whole else l.whole ++ '.' :: l.fraction)
        = l.whole ++ tail ∧
      Text.NoDigitNext tail ∧ splitFraction tail = (l.fraction, []) := by
  cases fraction : l.fraction with
  | nil => exact ⟨[], (List.append_nil _).symm, nofun, rfl⟩
  | cons first others =>
      rw [fraction] at all
      have atEnd : Text.NoDigitNext [] := nofun
      have taken := Text.takeWhile_digits all atEnd
      have dropped := Text.dropWhile_digits all atEnd
      rw [List.append_nil] at taken dropped
      refine ⟨'.' :: first :: others, rfl, Text.noDigitNext_cons (by decide) _, ?_⟩
      rw [splitFraction, taken, dropped]

section Digits

variable (negative : Bool) {first : Char} {others : List Char}

theorem splitSign_signed (digit : first.isDigit = true) :
    splitSign (signed negative (first :: others)) = (negative, first :: others) := by
  cases negative with
  | true => rfl
  | false =>
      change splitSign (first :: others) = _
      unfold splitSign
      split
      · next eq => exact absurd (List.cons.inj eq).1 (Text.ne_of_isDigit digit (by decide))
      · next eq => exact absurd (List.cons.inj eq).1 (Text.ne_of_isDigit digit (by decide))
      · rfl

/-- Whole digits and those of a fraction are read as one coefficient. -/
theorem unsigned?_digits {tail fraction : List Char} (all : AllDigits (first :: others))
    (next : Text.NoDigitNext tail) (split : splitFraction tail = (fraction, [])) :
    unsigned? negative (first :: others ++ tail)
      = some (ofDecimal negative (Nat.ofDigitChars 10 (first :: others ++ fraction) 0)
          (-fraction.length)) := by
  have digit : first.isDigit = true := all first List.mem_cons_self
  have noNaN : first :: others ++ tail ≠ ['N', 'a', 'N'] :=
    fun eq => Text.ne_of_isDigit digit (by decide) (List.cons.inj eq).1
  have noInfinity : first :: others ++ tail ≠ ['i', 'n', 'f'] :=
    fun eq => Text.ne_of_isDigit digit (by decide) (List.cons.inj eq).1
  rw [unsigned?, if_neg noNaN, if_neg noInfinity]
  dsimp only
  rw [Text.takeWhile_digits all next, Text.dropWhile_digits all next, split]
  dsimp only
  rw [List.isEmpty_cons, Bool.false_and, if_neg Bool.false_ne_true, exponent?, Option.map_some,
    digitsValue_eq, zero_sub]

theorem ofString?_layout {l : Layout} (whole : l.whole = first :: others)
    (allWhole : AllDigits l.whole) (allFraction : AllDigits l.fraction) :
    ofString? (String.ofList (signed negative
        (if l.fraction.isEmpty then l.whole else l.whole ++ '.' :: l.fraction)))
      = some (ofDecimal negative (Nat.ofDigitChars 10 (l.whole ++ l.fraction) 0)
          (-l.fraction.length)) := by
  obtain ⟨tail, text, next, split⟩ := exists_fraction allFraction
  rw [whole] at allWhole text ⊢
  rw [ofString?, String.toList_ofList, text, List.cons_append,
    splitSign_signed negative (allWhole first List.mem_cons_self)]
  exact unsigned?_digits negative allWhole next split

end Digits

/-! ## Rounding what was read -/

theorem ofRank_of_lt (negative : Bool) {rank : Nat} (lt : rank < rankLimit) :
    ofRank negative rank = .finite negative ⟨rank, lt⟩ := dif_pos lt

/-- A decimal that rounds to a positive rank is read as the number of that rank. -/
theorem ofDecimal_of_isNearest (negative : Bool) {coefficient places rank : Nat} (pos : 0 < rank)
    (near : IsNearest (coefficient / 10 ^ places) rank) :
    ofDecimal negative coefficient (-places) = ofRank negative rank := by
  have positive := pos_of_isNearest pos near
  have inside := places_le_of_isNearest pos near
  have read := nearestRank_isNearest coefficient (show 0 < 10 ^ places by positivity)
  rw [Nat.cast_pow, Nat.cast_ofNat] at read
  rw [ofDecimal, if_neg positive.ne', if_neg (by omega), if_neg (by omega), neg_neg,
    Int.toNat_natCast, Int.toNat_neg_natCast, Nat.pow_zero, Nat.mul_one, read.unique near]

/-! ## The theorem -/

theorem ofString?_positional_zero (negative : Bool) (lt : 0 < rankLimit) :
    ofString? (positional (.finite negative ⟨0, lt⟩)) = some (.finite negative ⟨0, lt⟩) := by
  have zero := ofString?_layout negative (l := ⟨['0'], []⟩) rfl
    (Text.allDigits_replicate_zero 1) nofun
  rw [ofDecimal, if_pos (by decide), ofRank_of_lt negative lt] at zero
  exact zero

/-- The shortest decimal is read as the number that it was made for. -/
theorem ofString?_positional_of_pos (negative : Bool) {rank : Nat} (lt : rank < rankLimit)
    (pos : 0 < rank) :
    ofString? (positional (.finite negative ⟨rank, lt⟩)) = some (.finite negative ⟨rank, lt⟩) := by
  have placed := layout_isPlaced .upper pos
  obtain ⟨c, cs, whole, -⟩ := placed.whole
  have near := rankOfDecimal_isNearest (shortest .upper rank)
  rw [(shortest_isShort .upper pos).reads, ← placed.value_eq] at near
  rw [positional, positionalChars, layout, if_neg pos.ne',
    ofString?_layout negative whole placed.allWhole placed.allFraction,
    ofDecimal_of_isNearest negative pos near, ofRank_of_lt negative lt]

/-- Every number is told by its text. -/
theorem ofString?_positional (x : Binary64) : ofString? x.positional = some x := by
  cases x with
  | finite negative rank =>
      obtain ⟨rank, lt⟩ := rank
      rcases Nat.eq_zero_or_pos rank with rfl | pos
      · exact ofString?_positional_zero negative lt
      · exact ofString?_positional_of_pos negative lt pos
  | infinite negative => cases negative <;> decide +kernel
  | nan => decide +kernel

theorem positional_injective : Function.Injective positional := by
  intro x y same
  have read := ofString?_positional x
  rw [same, ofString?_positional y] at read
  exact (Option.some.inj read).symm

/-! ## Its characters -/

theorem allDigits_layout (tie : Tie) (rank : Nat) :
    AllDigits (layout tie rank).whole ∧ AllDigits (layout tie rank).fraction := by
  rw [layout]
  split
  · exact ⟨Text.allDigits_replicate_zero 1, nofun⟩
  · next nonzero =>
    have placed := layout_isPlaced tie (Nat.pos_of_ne_zero nonzero)
    exact ⟨placed.allWhole, placed.allFraction⟩

theorem mem_signed {negative : Bool} {text : List Char} {c : Char}
    (mem : c ∈ signed negative text) : c = '-' ∨ c ∈ text := by
  cases negative with
  | true => exact List.mem_cons.mp mem
  | false => exact .inr mem

/-- A number is one word. -/
theorem space_not_mem_positional (x : Binary64) : ' ' ∉ x.positional.toList := by
  rw [positional, String.toList_ofList]
  cases x with
  | nan => decide
  | infinite negative => cases negative <;> decide
  | finite negative rank =>
      obtain ⟨whole, fraction⟩ := allDigits_layout .upper rank
      intro space
      rcases mem_signed space with sign | space
      · cases sign
      · split at space
        · exact absurd (whole _ space) (by decide)
        · rcases List.mem_append.mp space with inWhole | inRest
          · exact absurd (whole _ inWhole) (by decide)
          · rcases List.mem_cons.mp inRest with point | inFraction
            · cases point
            · exact absurd (fraction _ inFraction) (by decide)

end Binary64

end EvaluationBrowser

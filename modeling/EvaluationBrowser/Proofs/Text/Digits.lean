/-
# Runs of digits

What a run of decimal digits counts is core's `Nat.ofDigitChars`, which is the inverse of
`Nat.toDigits`. Here are its bounds, the first digit of a number, and what is cut off with the
zeros at the end of one. A run that is followed by no digit is read to its end.
-/
import EvaluationBrowser.Power
import EvaluationBrowser.Text.Digit
import EvaluationBrowser.Text.Ends

namespace EvaluationBrowser.Text

/-- All characters are decimal digits. -/
def AllDigits (ds : List Char) : Prop := ∀ d ∈ ds, d.isDigit = true

theorem AllDigits.append {as bs : List Char} (ha : AllDigits as) (hb : AllDigits bs) :
    AllDigits (as ++ bs) := by
  intro d hd
  rcases List.mem_append.mp hd with h | h
  · exact ha d h
  · exact hb d h

theorem AllDigits.sublist {as bs : List Char} (h : AllDigits bs) (sub : as.Sublist bs) :
    AllDigits as :=
  fun d hd => h d (sub.subset hd)

theorem allDigits_replicate_zero (n : Nat) : AllDigits (List.replicate n '0') := by
  intro d hd
  rw [List.eq_of_mem_replicate hd]
  decide

theorem allDigits_toDigits (n : Nat) : AllDigits (Nat.toDigits 10 n) :=
  fun _ hd => Nat.isDigit_of_mem_toDigits (by decide) (by decide) hd

theorem toString_injective : Function.Injective (toString : Nat → String) := by
  intro n n' same
  rw [Nat.toString_eq_ofList_toDigits, Nat.toString_eq_ofList_toDigits, String.ofList_inj] at same
  rw [← Nat.ofDigitChars_ten_toDigits (n := n), same, Nat.ofDigitChars_ten_toDigits]

theorem digitValue_lt {d : Char} (h : d.isDigit = true) : digitValue d < 10 := by
  simp only [Char.isDigit, Bool.and_eq_true, decide_eq_true_eq] at h
  have upper : d.toNat ≤ '9'.toNat := UInt32.le_iff_toNat_le.mp h.2
  change d.toNat ≤ 57 at upper
  change d.toNat - 48 < 10
  omega

theorem ofDigitChars_cons_zero (d : Char) (ds : List Char) :
    Nat.ofDigitChars 10 (d :: ds) 0
      = 10 ^ ds.length * digitValue d + Nat.ofDigitChars 10 ds 0 := by
  rw [Nat.ofDigitChars_cons, Nat.ofDigitChars_eq_ofDigitChars_zero, Nat.mul_zero, Nat.zero_add]
  rfl

theorem ofDigitChars_lt {ds : List Char} (h : AllDigits ds) :
    Nat.ofDigitChars 10 ds 0 < 10 ^ ds.length := by
  induction ds with
  | nil => decide
  | cons d ds ih =>
      have digit := digitValue_lt (h d List.mem_cons_self)
      have rest := ih fun e he => h e (List.mem_cons_of_mem _ he)
      rw [ofDigitChars_cons_zero, List.length_cons, Nat.pow_succ]
      have := Nat.mul_le_mul_left (10 ^ ds.length) (Nat.le_of_lt_succ digit)
      omega

/-- A number counted on only grows. -/
theorem le_ofDigitChars (n : Nat) (ds : List Char) : n ≤ Nat.ofDigitChars 10 ds n := by
  rw [Nat.ofDigitChars_eq_ofDigitChars_zero]
  exact Nat.le_add_right_of_le (Nat.le_mul_of_pos_left _ (Nat.pow_pos (by decide)))

theorem bounds_of_length {n digits : Nat} (pos : 0 < n)
    (eq : (Nat.toDigits 10 n).length = digits) : 10 ^ (digits - 1) ≤ n ∧ n < 10 ^ digits := by
  subst eq
  refine ⟨?_, (Nat.length_toDigits_le_iff (by decide) Nat.length_toDigits_pos).mp (Nat.le_refl _)⟩
  rcases Nat.lt_or_ge 1 (Nat.toDigits 10 n).length with many | one
  · refine Nat.le_of_not_lt fun lt => ?_
    have le := (Nat.length_toDigits_le_iff (by decide) (Nat.sub_pos_of_lt many)).mpr lt
    omega
  · rw [Nat.sub_eq_zero_of_le one, Nat.pow_zero]
    exact pos

/-- The first digit of a number that is not zero is not zero. -/
theorem first_ne_zero {n : Nat} {d : Char} {ds : List Char} (pos : 0 < n)
    (eq : Nat.toDigits 10 n = d :: ds) : d ≠ '0' := by
  rintro rfl
  have least := (bounds_of_length pos rfl).1
  have value : Nat.ofDigitChars 10 ('0' :: ds) 0 = n := by
    rw [← eq, Nat.ofDigitChars_ten_toDigits]
  have digits : AllDigits ds :=
    (eq ▸ allDigits_toDigits n : AllDigits ('0' :: ds)).sublist (List.sublist_cons_self _ _)
  have := ofDigitChars_lt digits
  rw [ofDigitChars_cons_zero] at value
  rw [eq, List.length_cons, Nat.add_sub_cancel] at least
  simp [digitValue] at value
  omega

/-- A number begins with zero only if it is zero. -/
theorem toDigits_eq_cons (n : Nat) :
    ∃ d ds, Nat.toDigits 10 n = d :: ds ∧ (d = '0' → ds = []) := by
  cases eq : Nat.toDigits 10 n with
  | nil => exact absurd eq (List.ne_nil_of_length_pos Nat.length_toDigits_pos)
  | cons d ds =>
      refine ⟨d, ds, rfl, fun zero => ?_⟩
      rcases Nat.eq_zero_or_pos n with rfl | pos
      · exact (List.cons.inj eq).2.symm
      · exact absurd zero (first_ne_zero pos eq)

/-- What is cut off the end are characters of the kind. -/
theorem exists_dropTrailing (c : Char) (cs : List Char) :
    ∃ n, cs = dropTrailing (· == c) cs ++ List.replicate n c := by
  have split : cs.reverse.takeWhile (· == c) ++ cs.reverse.dropWhile (· == c) = cs.reverse :=
    List.takeWhile_append_dropWhile
  have same : (cs.reverse.takeWhile (· == c)).reverse
      = List.replicate (cs.reverse.takeWhile (· == c)).length c := by
    rw [List.eq_replicate_iff, List.length_reverse]
    refine ⟨rfl, fun d hd => ?_⟩
    exact eq_of_beq (List.all_eq_true.mp List.all_takeWhile d (List.mem_reverse.mp hd))
  refine ⟨(cs.reverse.takeWhile (· == c)).length, ?_⟩
  rw [dropTrailing, ← same, ← List.reverse_append, split, List.reverse_reverse]

/-! ## Where a run ends -/

/-- No digit comes next. -/
def NoDigitNext (rest : List Char) : Prop := ∀ c ∈ rest.head?, c.isDigit = false

theorem noDigitNext_cons {c : Char} (h : c.isDigit = false) (rest : List Char) :
    NoDigitNext (c :: rest) := by
  intro d hd
  cases hd
  exact h

theorem takeWhile_digits {ds rest : List Char} (all : AllDigits ds) (next : NoDigitNext rest) :
    (ds ++ rest).takeWhile Char.isDigit = ds := by
  rw [List.takeWhile_append_of_pos all]
  cases rest with
  | nil => rw [List.takeWhile_nil, List.append_nil]
  | cons c rest =>
      rw [List.takeWhile_cons_of_neg, List.append_nil]
      rw [next c rfl]
      exact Bool.false_ne_true

theorem dropWhile_digits {ds rest : List Char} (all : AllDigits ds) (next : NoDigitNext rest) :
    (ds ++ rest).dropWhile Char.isDigit = rest := by
  rw [List.dropWhile_append_of_pos all]
  cases rest with
  | nil => rfl
  | cons c rest =>
      refine List.dropWhile_cons_of_neg ?_
      rw [next c rfl]
      exact Bool.false_ne_true

theorem ne_of_isDigit {c d : Char} (digit : c.isDigit = true) (other : d.isDigit = false) :
    c ≠ d := by
  rintro rfl
  rw [digit] at other
  cases other

end EvaluationBrowser.Text

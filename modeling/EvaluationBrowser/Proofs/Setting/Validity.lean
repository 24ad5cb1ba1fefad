/-
# Which settings are accepted

A setting is valid if it breaks no rule, whichever is asked first; and a body is accepted if it
decodes and every setting in it is valid.
-/
import EvaluationBrowser.Failure

namespace EvaluationBrowser

namespace Binary64

/-- The numbers that are allowed as areas. -/
structure IsArea (x : Binary64) : Prop where
  finite : x.isFinite = true
  notLess : x.isLess zero = false

/-- Only a negative number that is not zero is below zero. -/
theorem isLess_zero_iff {negative : Bool} {rank : Fin rankLimit} :
    (Binary64.finite negative rank).isLess zero = true ↔ negative = true ∧ 0 < rank.val := by
  have zeroPlace : zero.place? = some 0 := rfl
  rw [isLess, compare?, zeroPlace, place?]
  dsimp only
  rw [beq_iff_eq, Option.some.injEq, Std.compare_eq_lt]
  cases negative with
  | false => simp
  | true => simp

/-- An area is a finite number, and the only negative one is zero. -/
theorem isArea_iff {x : Binary64} :
    x.IsArea ↔ ∃ negative rank, x = .finite negative rank ∧ (negative = true → rank.val = 0) := by
  constructor
  · rintro ⟨finite, notLess⟩
    cases x with
    | finite negative rank =>
        refine ⟨negative, rank, rfl, fun sign => Nat.eq_zero_of_not_pos fun pos => ?_⟩
        rw [isLess_zero_iff.mpr ⟨sign, pos⟩] at notLess
        cases notLess
    | infinite _ => cases finite
    | nan => cases finite
  · rintro ⟨negative, rank, rfl, zero⟩
    refine ⟨rfl, Bool.eq_false_iff.mpr fun less => ?_⟩
    obtain ⟨sign, pos⟩ := isLess_zero_iff.mp less
    rw [zero sign] at pos
    cases pos

theorem place?_of_isArea {negative : Bool} {rank : Fin rankLimit}
    (zero : negative = true → rank.val = 0) :
    (Binary64.finite negative rank).place? = some (rank.val : Int) := by
  cases negative with
  | false => rfl
  | true =>
      rw [place?, zero rfl]
      rfl

/-- Areas are in the order of their ranks. -/
theorem isLess_iff {negative negative' : Bool} {a b : Fin rankLimit}
    (zeroA : negative = true → a.val = 0) (zeroB : negative' = true → b.val = 0) :
    (Binary64.finite negative a).isLess (.finite negative' b) = true ↔ a.val < b.val := by
  rw [isLess, compare?, place?_of_isArea zeroA, place?_of_isArea zeroB]
  dsimp only
  rw [beq_iff_eq, Option.some.injEq, Std.compare_eq_lt, Int.ofNat_lt]

end Binary64

namespace Setting

variable {s : Setting} {bound : AreaBound}

/-! ## The rules -/

theorem areaViolation?_eq_none_iff :
    s.areaViolation? bound = none ↔ ∀ area, s.area bound = some area → area.IsArea := by
  rw [areaViolation?]
  cases eq : s.area bound with
  | none => exact ⟨fun _ _ h => (nomatch h), fun _ => rfl⟩
  | some area =>
      dsimp only
      constructor
      · intro none other same
        cases same
        split at none
        · cases none
        split at none
        · cases none
        · next finite less => exact ⟨by simpa using finite, by simpa using less⟩
      · intro fair
        obtain ⟨finite, less⟩ := fair area rfl
        rw [finite, less]
        rfl

theorem rangeViolation?_eq_none_iff :
    s.rangeViolation? = none ↔
      ∀ min max, s.minArea = some min → s.maxArea = some max → max.isLess min = false := by
  rw [rangeViolation?]
  split
  · next min max minEq maxEq =>
    constructor
    · intro none min' max' hMin hMax
      cases minEq.symm.trans hMin
      cases maxEq.symm.trans hMax
      split at none
      · cases none
      · next less => exact Bool.eq_false_iff.mpr less
    · intro ordered
      rw [ordered min max minEq maxEq]
      rfl
  · next missing =>
    exact ⟨fun _ min max hMin hMax => absurd hMax (missing min max hMin), fun _ => rfl⟩

theorem rangeViolation?_ne_none (h : s.rangeViolation? ≠ none) :
    ∃ min max, s.minArea = some min ∧ s.maxArea = some max ∧ max.isLess min = true := by
  refine Classical.byContradiction fun none => ?_
  refine h (rangeViolation?_eq_none_iff.mpr fun min max hMin hMax => ?_)
  exact Bool.eq_false_iff.mpr fun less => none ⟨min, max, hMin, hMax, less⟩

theorem isValid_iff :
    s.IsValid ↔ Text.isBlankText s.datasetName = false ∧
      (∀ bound, s.areaViolation? bound = none) ∧ s.rangeViolation? = none := by
  rw [IsValid, violation?]
  cases blank : Text.isBlankText s.datasetName with
  | true =>
      rw [if_pos rfl]
      exact ⟨fun h => (nomatch h), fun h => (nomatch h.1)⟩
  | false =>
      rw [if_neg Bool.false_ne_true, Option.or_eq_none_iff, Option.or_eq_none_iff]
      constructor
      · rintro ⟨min, max, range⟩
        refine ⟨rfl, fun bound => ?_, range⟩
        cases bound with
        | min => exact min
        | max => exact max
      · rintro ⟨-, areas, range⟩
        exact ⟨areas .min, areas .max, range⟩

/-! ## Bodies -/

theorem forM_validate_eq_ok_iff {settings : List Setting} :
    settings.forM validate = .ok () ↔ ∀ s ∈ settings, s.IsValid := by
  induction settings with
  | nil => exact ⟨fun _ _ h => (nomatch h), fun _ => rfl⟩
  | cons s settings ih =>
      change (validate s >>= fun _ => settings.forM validate) = .ok () ↔ _
      rw [List.forall_mem_cons, ← ih, validate]
      cases violation : s.violation? with
      | none => exact ⟨fun h => ⟨violation, h⟩, fun h => h.2⟩
      | some v =>
          constructor
          · intro h
            cases h
          · rintro ⟨valid, -⟩
            rw [IsValid, violation] at valid
            cases valid

theorem eq_ok_of_toOption {result : Except ε α} {x : α} (h : result.toOption = some x) :
    result = .ok x := by
  cases result with
  | error _ => cases h
  | ok _ => exact congrArg Except.ok (Option.some.inj h)

/-- A body is accepted if it decodes to valid settings. -/
theorem parseAll_eq_ok_iff {body : String} {settings : List Setting} :
    parseAll body = .ok settings ↔
      decodeAll body = .ok settings ∧ ∀ s ∈ settings, s.IsValid := by
  rw [parseAll]
  cases decodeAll body with
  | error error => exact ⟨fun h => (nomatch h), fun h => (nomatch h.1)⟩
  | ok decoded =>
      dsimp only
      constructor
      · intro h
        cases checked : decoded.forM validate with
        | error failure =>
            rw [checked] at h
            cases h
        | ok _ =>
            rw [checked] at h
            cases h
            exact ⟨rfl, forM_validate_eq_ok_iff.mp checked⟩
      · rintro ⟨same, valid⟩
        cases same
        rw [forM_validate_eq_ok_iff.mpr valid]
        rfl

end Setting

end EvaluationBrowser

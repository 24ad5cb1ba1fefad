/-
# What is said of a body

The rules are stated here by the numbers that areas stand for, one by one and apart from the check
that asks them, and with their order. A setting breaks a rule in one way at most, so the first rule
broken is told in one way, and the check tells it. Over a list the check tells it of the first
setting that breaks a rule. A body that does not decode has no settings to break any, so how it
fails to decode is told first, whatever the settings before the fault.

The rule about both areas compares numbers. It says nothing of areas that stand for none, but then
an earlier rule is broken.
-/
import EvaluationBrowser.Proofs.Binary64.Value
import EvaluationBrowser.Proofs.Checks
import EvaluationBrowser.Proofs.Setting.Validity
import EvaluationBrowser.Proofs.Text.Ends
import EvaluationBrowser.Proofs.Wording

namespace EvaluationBrowser.Setting

/-! ## The rules -/

inductive Rule where
  | dataset
  | area (bound : AreaBound)
  | range
  deriving DecidableEq

/-- The order in which the rules are asked. -/
def Rule.place : Rule → Nat
  | .dataset => 0
  | .area .min => 1
  | .area .max => 2
  | .range => 3

/-- The setting breaks the rule, and how. -/
inductive Breaks (s : Setting) : Rule → Violation → Prop
  | blankDataset : (∀ c ∈ s.datasetName.toList, Text.isBlank c = true) →
      Breaks s .dataset .blankDataset
  | notFinite {bound : AreaBound} {x : Binary64} : s.area bound = some x → x.value? = none →
      Breaks s (.area bound) (.notFinite bound)
  | negative {bound : AreaBound} {x : Binary64} {a : ℚ} : s.area bound = some x →
      x.value? = some a → a < 0 → Breaks s (.area bound) (.negative bound)
  | inverted {min max : Binary64} {a b : ℚ} : s.minArea = some min → s.maxArea = some max →
      min.value? = some a → max.value? = some b → b < a → Breaks s .range (.inverted min max)

/-- How the setting breaks the first rule that it breaks. -/
def FirstBreaks (s : Setting) (v : Violation) : Prop :=
  ∃ rule, s.Breaks rule v ∧
    ∀ earlier : Rule, earlier.place < rule.place → ∀ w, ¬ s.Breaks earlier w

/-- The setting keeps all rules. -/
structure IsSound (s : Setting) : Prop where
  dataset : ∃ c ∈ s.datasetName.toList, Text.isBlank c = false
  area : ∀ bound x, s.area bound = some x → ∃ a, x.value? = some a ∧ 0 ≤ a
  range : ∀ min max a b, s.minArea = some min → s.maxArea = some max →
    min.value? = some a → max.value? = some b → a ≤ b

variable {s : Setting} {v w : Violation}

/-! ## One way to break a rule -/

theorem Rule.place_injective : Function.Injective Rule.place := by
  intro r q same
  cases r with
  | dataset => cases q with
    | dataset => rfl
    | area bound => cases bound <;> cases same
    | range => cases same
  | area bound => cases q with
    | dataset => cases bound <;> cases same
    | area bound' => cases bound <;> cases bound' <;> first | rfl | cases same
    | range => cases bound <;> cases same
  | range => cases q with
    | dataset => cases same
    | area bound => cases bound <;> cases same
    | range => rfl

theorem Breaks.unique {rule : Rule} (first : s.Breaks rule v) (second : s.Breaks rule w) :
    v = w := by
  cases first with
  | blankDataset _ =>
      cases second
      rfl
  | notFinite given none =>
      cases second with
      | notFinite _ _ => rfl
      | negative given' some _ =>
          cases given.symm.trans given'
          cases none.symm.trans some
  | negative given some _ =>
      cases second with
      | notFinite given' none =>
          cases given.symm.trans given'
          cases none.symm.trans some
      | negative _ _ _ => rfl
  | inverted givenMin givenMax _ _ _ =>
      cases second with
      | inverted givenMin' givenMax' _ _ _ =>
          cases givenMin.symm.trans givenMin'
          cases givenMax.symm.trans givenMax'
          rfl

theorem FirstBreaks.unique (first : s.FirstBreaks v) (second : s.FirstBreaks w) : v = w := by
  obtain ⟨rule, breaks, kept⟩ := first
  obtain ⟨rule', breaks', kept'⟩ := second
  rcases Nat.lt_trichotomy rule.place rule'.place with lt | eq | lt
  · exact absurd breaks (kept' rule lt v)
  · rw [Rule.place_injective eq] at breaks
    exact breaks.unique breaks'
  · exact absurd breaks' (kept rule' lt w)

theorem isSound_iff : s.IsSound ↔ ∀ rule v, ¬ s.Breaks rule v := by
  constructor
  · intro sound rule v breaks
    cases breaks with
    | blankDataset blank =>
        obtain ⟨c, mem, other⟩ := sound.dataset
        rw [blank c mem] at other
        cases other
    | notFinite given none =>
        obtain ⟨a, some, -⟩ := sound.area _ _ given
        cases none.symm.trans some
    | negative given some below =>
        obtain ⟨a, some', above⟩ := sound.area _ _ given
        cases some.symm.trans some'
        exact absurd below (not_lt.mpr above)
    | inverted givenMin givenMax ha hb lt =>
        exact absurd lt (not_lt.mpr (sound.range _ _ _ _ givenMin givenMax ha hb))
  · intro keeps
    refine { dataset := ?_, area := ?_, range := ?_ }
    · by_contra none
      refine keeps .dataset .blankDataset (.blankDataset fun c mem => ?_)
      by_contra other
      exact none ⟨c, mem, Bool.eq_false_iff.mpr other⟩
    · intro bound x given
      cases value : x.value? with
      | none => exact absurd (.notFinite given value) (keeps (.area bound) _)
      | some a =>
          refine ⟨a, rfl, not_lt.mp fun below => ?_⟩
          exact keeps (.area bound) _ (.negative given value below)
    · intro min max a b givenMin givenMax ha hb
      refine not_lt.mp fun lt => ?_
      exact keeps .range _ (.inverted givenMin givenMax ha hb lt)

/-! ## The check tells the first rule broken -/

theorem breaks_dataset_iff :
    s.Breaks .dataset v ↔ Text.isBlankText s.datasetName = true ∧ v = .blankDataset := by
  rw [Text.isBlankText_iff]
  constructor
  · intro breaks
    cases breaks with
    | blankDataset blank => exact ⟨blank, rfl⟩
  · rintro ⟨blank, rfl⟩
    exact .blankDataset blank

theorem areaViolation?_eq_some_iff {bound : AreaBound} :
    s.areaViolation? bound = some v ↔ s.Breaks (.area bound) v := by
  constructor
  · intro told
    rw [areaViolation?] at told
    cases given : s.area bound with
    | none =>
        rw [given] at told
        cases told
    | some x =>
        rw [given] at told
        dsimp only at told
        cases value : x.value? with
        | none =>
            rw [Binary64.isFinite_eq_false_iff.mpr value] at told
            cases told
            exact .notFinite given value
        | some a =>
            rw [Binary64.isFinite_iff.mpr ⟨a, value⟩] at told
            rw [if_neg (by decide)] at told
            split at told
            · next less =>
              cases told
              exact .negative given value
                ((Binary64.isLess_iff_of_values value Binary64.value?_zero).mp less)
            · cases told
  · intro breaks
    rw [areaViolation?]
    cases breaks with
    | notFinite given none =>
        rw [given]
        dsimp only
        rw [Binary64.isFinite_eq_false_iff.mpr none]
        rfl
    | negative given some below =>
        rw [given]
        dsimp only
        rw [Binary64.isFinite_iff.mpr ⟨_, some⟩,
          (Binary64.isLess_iff_of_values some Binary64.value?_zero).mpr below]
        rfl

/-- Areas that keep their own rules stand for numbers, and these are what the last rule compares. -/
theorem rangeViolation?_eq_some_iff
    (areas : ∀ bound x, s.area bound = some x → ∃ a, x.value? = some a) :
    s.rangeViolation? = some v ↔ s.Breaks .range v := by
  constructor
  · intro told
    obtain ⟨min, max, givenMin, givenMax, less⟩ :=
      rangeViolation?_ne_none (ne_of_eq_of_ne told (Option.some_ne_none v))
    obtain ⟨a, ha⟩ := areas .min min givenMin
    obtain ⟨b, hb⟩ := areas .max max givenMax
    rw [rangeViolation?, givenMin, givenMax] at told
    dsimp only at told
    rw [if_pos less] at told
    cases told
    exact .inverted givenMin givenMax ha hb ((Binary64.isLess_iff_of_values hb ha).mp less)
  · intro breaks
    cases breaks with
    | inverted givenMin givenMax ha hb lt =>
        rw [rangeViolation?, givenMin, givenMax]
        dsimp only
        rw [if_pos ((Binary64.isLess_iff_of_values hb ha).mpr lt)]

/-! ### The rules before -/

theorem keeps_dataset (named : ¬ Text.isBlankText s.datasetName = true) (w : Violation) :
    ¬ s.Breaks .dataset w :=
  fun breaks => named (breaks_dataset_iff.mp breaks).1

theorem keeps_area {bound : AreaBound} (none : s.areaViolation? bound = none) (w : Violation) :
    ¬ s.Breaks (.area bound) w := by
  intro breaks
  rw [areaViolation?_eq_some_iff.mpr breaks] at none
  cases none

theorem value?_of_areas (areas : ∀ bound, s.areaViolation? bound = none) (bound : AreaBound)
    (x : Binary64) (given : s.area bound = some x) : ∃ a, x.value? = some a :=
  Binary64.isFinite_iff.mp (areaViolation?_eq_none_iff.mp (areas bound) x given).finite

theorem IsSound.of_isValid (valid : s.IsValid) : s.IsSound := by
  obtain ⟨named, areas, range⟩ := isValid_iff.mp valid
  refine isSound_iff.mpr fun rule v => ?_
  cases rule with
  | dataset => exact keeps_dataset (Bool.eq_false_iff.mp named) v
  | area bound => exact keeps_area (areas bound) v
  | range =>
      intro breaks
      rw [(rangeViolation?_eq_some_iff (value?_of_areas areas)).mpr breaks] at range
      cases range

theorem FirstBreaks.of_violation? (told : s.violation? = some v) : s.FirstBreaks v := by
  rw [violation?] at told
  split at told
  · next blank =>
    cases told
    refine ⟨.dataset, breaks_dataset_iff.mpr ⟨blank, rfl⟩, fun earlier before => ?_⟩
    exact absurd before (Nat.not_lt_zero _)
  next named =>
  rcases Option.or_eq_some_iff.mp told with min | ⟨min, told⟩
  · refine ⟨.area .min, areaViolation?_eq_some_iff.mp min, fun earlier before => ?_⟩
    cases earlier with
    | dataset => exact keeps_dataset named
    | area bound => cases bound <;> exact absurd before (by decide)
    | range => exact absurd before (by decide)
  rcases Option.or_eq_some_iff.mp told with max | ⟨max, range⟩
  · refine ⟨.area .max, areaViolation?_eq_some_iff.mp max, fun earlier before => ?_⟩
    cases earlier with
    | dataset => exact keeps_dataset named
    | area bound =>
        cases bound with
        | min => exact keeps_area min
        | max => exact absurd before (by decide)
    | range => exact absurd before (by decide)
  · have areas : ∀ bound, s.areaViolation? bound = none := by
      intro bound
      cases bound with
      | min => exact min
      | max => exact max
    refine ⟨.range, (rangeViolation?_eq_some_iff (value?_of_areas areas)).mp range,
      fun earlier before => ?_⟩
    cases earlier with
    | dataset => exact keeps_dataset named
    | area bound => exact keeps_area (areas bound)
    | range => exact absurd before (by decide)

theorem isValid_iff_isSound : s.IsValid ↔ s.IsSound := by
  refine ⟨.of_isValid, fun sound => ?_⟩
  rw [IsValid, Option.eq_none_iff_forall_ne_some]
  intro v told
  obtain ⟨rule, breaks, -⟩ := FirstBreaks.of_violation? told
  exact isSound_iff.mp sound rule v breaks

theorem violation?_eq_some_iff : s.violation? = some v ↔ s.FirstBreaks v := by
  refine ⟨.of_violation?, fun first => ?_⟩
  cases told : s.violation? with
  | none =>
      obtain ⟨rule, breaks, -⟩ := first
      exact absurd breaks (isSound_iff.mp (isValid_iff_isSound.mp told) rule v)
  | some w => rw [(FirstBreaks.of_violation? told).unique first]

/-! ## Bodies -/

theorem validate_eq_ok_iff : s.validate = .ok () ↔ s.IsSound := by
  rw [← isValid_iff_isSound, IsValid, validate]
  cases s.violation? with
  | none => exact ⟨fun _ => rfl, fun _ => rfl⟩
  | some v =>
      constructor
      · intro passed
        cases passed
      · intro none
        cases none

theorem validate_eq_error_iff {failure : Failure} :
    s.validate = .error failure ↔ ∃ v, s.FirstBreaks v ∧ failure = .invalidSetting s.id v := by
  simp only [← violation?_eq_some_iff]
  rw [validate]
  cases s.violation? with
  | none =>
      constructor
      · intro failed
        cases failed
      · rintro ⟨v, told, -⟩
        cases told
  | some v =>
      constructor
      · intro failed
        exact ⟨v, rfl, (Except.error.inj failed).symm⟩
      · rintro ⟨w, same, rfl⟩
        cases same
        rfl

theorem parseAll_eq_ok_iff_isSound {body : String} {settings : List Setting} :
    parseAll body = .ok settings ↔ decodeAll body = .ok settings ∧ ∀ s ∈ settings, s.IsSound := by
  simp only [← isValid_iff_isSound]
  exact parseAll_eq_ok_iff

theorem parseAll_eq_error_iff {body : String} {failure : Failure} :
    parseAll body = .error failure ↔
      (∃ e, decodeAll body = .error e ∧ failure = .json e) ∨
      (∃ before s after v, decodeAll body = .ok (before ++ s :: after) ∧
        (∀ t ∈ before, t.IsSound) ∧ s.FirstBreaks v ∧ failure = .invalidSetting s.id v) := by
  rw [parseAll]
  cases decoded : decodeAll body with
  | error e =>
      constructor
      · intro failed
        exact .inl ⟨e, rfl, (Except.error.inj failed).symm⟩
      · rintro (⟨e', same, rfl⟩ | ⟨before, s, after, v, same, -⟩)
        · cases same
          rfl
        · cases same
  | ok settings =>
      dsimp only
      constructor
      · intro failed
        cases checked : settings.forM validate with
        | ok _ =>
            rw [checked] at failed
            cases failed
        | error other =>
            rw [checked] at failed
            cases failed
            obtain ⟨before, s, after, rfl, passed, refused⟩ := forM_eq_error_iff.mp checked
            obtain ⟨v, first, rfl⟩ := validate_eq_error_iff.mp refused
            exact .inr ⟨before, s, after, v, rfl,
              fun t mem => validate_eq_ok_iff.mp (passed t mem), first, rfl⟩
      · rintro (⟨e, same, -⟩ | ⟨before, s, after, v, same, sound, first, rfl⟩)
        · cases same
        · cases same
          rw [forM_eq_error_iff.mpr ⟨before, s, after, rfl,
            fun t mem => validate_eq_ok_iff.mpr (sound t mem),
            validate_eq_error_iff.mpr ⟨v, first, rfl⟩⟩]
          rfl

/-- What is said of a body. -/
structure Judged (body : String) : Prop where
  /-- It is accepted as the settings that it decodes to, if they all keep the rules. -/
  accepted : ∀ settings, parseAll body = .ok settings ↔
    decodeAll body = .ok settings ∧ ∀ s ∈ settings, s.IsSound
  /-- If one of them does not, the first such is named, with the first rule that it breaks. -/
  refused : ∀ id v, parseAll body = .error (.invalidSetting id v) ↔
    ∃ before s after, decodeAll body = .ok (before ++ s :: after) ∧
      (∀ t ∈ before, t.IsSound) ∧ s.id = id ∧ s.FirstBreaks v
  /-- It is told in these words, and they are said only of that setting and that rule. -/
  worded : ∀ id v, parseAll body = .error (.invalidSetting id v) ↔
    ∃ failure, parseAll body = .error failure ∧
      failure.message = "Invalid evaluation setting " ++ toString id.toNat ++ ": " ++ v.reason
  /-- If it does not decode, it is told why, and nothing of the settings before the fault. -/
  undecoded : ∀ e, parseAll body = .error (.json e) ↔ decodeAll body = .error e
  /-- Nothing else is ever said. -/
  settled : (∃ settings, parseAll body = .ok settings) ∨
    (∃ id v, parseAll body = .error (.invalidSetting id v)) ∨
    ∃ e, parseAll body = .error (.json e)

theorem judged_parseAll (body : String) : Judged body := by
  refine { accepted := fun _ => parseAll_eq_ok_iff_isSound, refused := fun id v => ?_,
           worded := fun id v => ?_, undecoded := fun e => ?_, settled := ?_ }
  · rw [parseAll_eq_error_iff]
    constructor
    · rintro (⟨e, -, same⟩ | ⟨before, s, after, w, decoded, sound, first, same⟩)
      · cases same
      · cases same
        exact ⟨before, s, after, decoded, sound, rfl, first⟩
    · rintro ⟨before, s, after, decoded, sound, rfl, first⟩
      exact .inr ⟨before, s, after, v, decoded, sound, first, rfl⟩
  · refine ⟨fun failed => ⟨_, failed, rfl⟩, ?_⟩
    rintro ⟨failure, failed, text⟩
    rw [failed, Failure.eq_of_message_eq_invalidSetting text]
  · rw [parseAll_eq_error_iff]
    constructor
    · rintro (⟨e', undecoded, same⟩ | ⟨before, s, after, w, -, -, -, same⟩)
      · cases same
        exact undecoded
      · cases same
    · intro undecoded
      exact .inl ⟨e, undecoded, rfl⟩
  · cases parsed : parseAll body with
    | ok settings => exact .inl ⟨settings, rfl⟩
    | error failure =>
        rcases parseAll_eq_error_iff.mp parsed with ⟨e, -, rfl⟩ | ⟨_, s, _, v, -, -, -, rfl⟩
        · exact .inr (.inr ⟨e, rfl⟩)
        · exact .inr (.inl ⟨s.id, v, rfl⟩)

end EvaluationBrowser.Setting

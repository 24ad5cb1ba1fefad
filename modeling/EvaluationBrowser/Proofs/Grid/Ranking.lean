/-
# How a column ranks settings

A column of areas ranks by the numbers that the areas stand for, and one that is not given comes
before all of them. Both zeros stand for 0, so they tie. Every other column ranks by small forms
and, where these agree, by the texts themselves, so a text ties with itself alone. `Precedes` and
`Ties` say this apart from the comparison.

The comparison follows them where all areas stand for numbers, which the rules for settings demand.
It is then a total preorder in either direction, and that is what a sort has to rely on: the rows
found can be arranged in one way only, however the sort goes about it. NaN stands for no number. It
ties with every area, and a single NaN among different areas undoes the preorder.
-/
import EvaluationBrowser.Proofs.Grid.Walk
import EvaluationBrowser.Proofs.Setting.Verdict
import Mathlib.Data.String.Basic

namespace EvaluationBrowser

open Std

/-! ## Total preorders -/

/-- Among the elements of which `P` holds, the comparison is that of a total preorder. -/
structure IsPreorderOn {α : Type} (cmp : α → α → Ordering) (P : α → Prop) : Prop where
  self : ∀ a, P a → cmp a a = .eq
  swap : ∀ a b, P a → P b → cmp b a = (cmp a b).swap
  trans : ∀ a b c, P a → P b → P c →
    (cmp a b).isLE = true → (cmp b c).isLE = true → (cmp a c).isLE = true
  /-- Elements that tie compare alike with every other. -/
  congr : ∀ a b c, P a → P b → P c → cmp a b = .eq → cmp a c = cmp b c ∧ cmp c a = cmp c b

/-- A comparison need only agree with a total preorder where it is asked. -/
theorem IsPreorderOn.of_agrees {α : Type} {cmp key : α → α → Ordering} [TransCmp key]
    {P : α → Prop} (agrees : ∀ a b, P a → P b → cmp a b = key a b) : IsPreorderOn cmp P := by
  refine { self := ?_, swap := ?_, trans := ?_, congr := ?_ }
  · intro a ha
    rw [agrees a a ha ha]
    exact ReflCmp.compare_self
  · intro a b ha hb
    rw [agrees a b ha hb, agrees b a hb ha]
    exact OrientedCmp.eq_swap
  · intro a b c ha hb hc
    rw [agrees a b ha hb, agrees b c hb hc, agrees a c ha hc]
    exact TransCmp.isLE_trans
  · intro a b c ha hb hc
    rw [agrees a b ha hb, agrees a c ha hc, agrees b c hb hc, agrees c a hc ha, agrees c b hc hb]
    exact fun tie => ⟨TransCmp.congr_left tie, TransCmp.congr_right tie⟩

/-! ## Texts -/

namespace Text

/-- The first text ranks before the second. -/
inductive Precedes (a b : String) : Prop
  | small : lowercase a < lowercase b → Precedes a b
  | same : lowercase a = lowercase b → a < b → Precedes a b

theorem compareChars_eq_lt_iff {a b : List Char} : compare a b = .lt ↔ a < b := by
  induction a generalizing b with
  | nil => cases b <;> simp
  | cons c a ih =>
      cases b with
      | nil => simp
      | cons d b =>
          rw [List.compare_cons_cons, Ordering.then_eq_lt, List.cons_lt_cons_iff, ih,
            Std.compare_eq_iff_eq]
          exact or_congr_left compare_lt_iff_lt

theorem compareTexts_eq_lt_iff {a b : String} : compareTexts a b = .lt ↔ Precedes a b := by
  have small : lowercaseChars a.toList < lowercaseChars b.toList ↔ lowercase a < lowercase b := by
    rw [String.lt_iff_toList_lt, lowercase, lowercase, String.toList_ofList, String.toList_ofList]
  have same : lowercaseChars a.toList = lowercaseChars b.toList ↔ lowercase a = lowercase b :=
    String.ofList_inj.symm
  rw [compareTexts, Ordering.then_eq_lt, compareChars_eq_lt_iff, compareChars_eq_lt_iff,
    Std.compare_eq_iff_eq, small, same, ← String.lt_iff_toList_lt]
  constructor
  · rintro (less | ⟨same, less⟩)
    · exact .small less
    · exact .same same less
  · intro before
    cases before with
    | small less => exact .inl less
    | same same less => exact .inr ⟨same, less⟩

theorem compareTexts_eq_eq_iff {a b : String} : compareTexts a b = .eq ↔ a = b := by
  rw [compareTexts, Ordering.then_eq_eq, Std.compare_eq_iff_eq, Std.compare_eq_iff_eq,
    String.toList_inj]
  constructor
  · exact fun h => h.2
  · rintro rfl
    exact ⟨rfl, rfl⟩

end Text

/-! ## Areas -/

/-- The first area ranks before the second. -/
inductive AreaPrecedes : Option Binary64 → Option Binary64 → Prop
  | missing {y : Binary64} : AreaPrecedes none (some y)
  | less {x y : Binary64} {p q : ℚ} : x.value? = some p → y.value? = some q → p < q →
      AreaPrecedes (some x) (some y)

/-- The areas rank alike. -/
inductive AreaTies : Option Binary64 → Option Binary64 → Prop
  | missing : AreaTies none none
  | same {x y : Binary64} {p : ℚ} : x.value? = some p → y.value? = some p →
      AreaTies (some x) (some y)

section Values

variable {x y : Binary64} {p q : ℚ}

theorem areaPrecedes_iff_of_values (hx : x.value? = some p) (hy : y.value? = some q) :
    AreaPrecedes (some x) (some y) ↔ p < q := by
  constructor
  · intro before
    cases before with
    | less hx' hy' less =>
        cases hx.symm.trans hx'
        cases hy.symm.trans hy'
        exact less
  · intro less
    exact .less hx hy less

theorem areaTies_iff_of_values (hx : x.value? = some p) (hy : y.value? = some q) :
    AreaTies (some x) (some y) ↔ p = q := by
  constructor
  · intro ties
    cases ties with
    | same hx' hy' =>
        cases hx.symm.trans hx'
        cases hy.symm.trans hy'
        rfl
  · rintro rfl
    exact .same hx hy

theorem compareAreas_of_values (hx : x.value? = some p) (hy : y.value? = some q) :
    compareAreas (some x) (some y) = compare p q := by
  rw [compareAreas, Binary64.compare?_of_values hx hy]
  rfl

/-- Both zeros stand for 0. -/
theorem compareAreas_zeros : compareAreas (some (.ofRank true 0)) (some .zero) = .eq := by
  rw [compareAreas_of_values Binary64.value?_negativeZero Binary64.value?_zero,
    Std.compare_eq_iff_eq]

end Values

section Areas

variable {x y : Option Binary64}

theorem compareAreas_eq_lt_iff (hx : ∀ z, x = some z → ∃ p, z.value? = some p)
    (hy : ∀ z, y = some z → ∃ q, z.value? = some q) :
    compareAreas x y = .lt ↔ AreaPrecedes x y := by
  cases x with
  | none =>
      cases y with
      | none => exact ⟨nofun, nofun⟩
      | some y => exact ⟨fun _ => .missing, fun _ => rfl⟩
  | some x =>
      cases y with
      | none => exact ⟨nofun, nofun⟩
      | some y =>
          obtain ⟨p, hp⟩ := hx x rfl
          obtain ⟨q, hq⟩ := hy y rfl
          rw [compareAreas_of_values hp hq, areaPrecedes_iff_of_values hp hq, compare_lt_iff_lt]

theorem compareAreas_eq_eq_iff (hx : ∀ z, x = some z → ∃ p, z.value? = some p)
    (hy : ∀ z, y = some z → ∃ q, z.value? = some q) : compareAreas x y = .eq ↔ AreaTies x y := by
  cases x with
  | none =>
      cases y with
      | none => exact ⟨fun _ => .missing, fun _ => rfl⟩
      | some y => exact ⟨nofun, nofun⟩
  | some x =>
      cases y with
      | none => exact ⟨nofun, nofun⟩
      | some y =>
          obtain ⟨p, hp⟩ := hx x rfl
          obtain ⟨q, hq⟩ := hy y rfl
          rw [compareAreas_of_values hp hq, areaTies_iff_of_values hp hq, Std.compare_eq_iff_eq]

end Areas

/-! ## Columns -/

namespace Setting.IsSound

variable {s : Setting}

theorem exists_value (sound : s.IsSound) (bound : AreaBound) (x : Binary64)
    (given : s.area bound = some x) : ∃ p, x.value? = some p := by
  obtain ⟨p, value, -⟩ := sound.area bound x given
  exact ⟨p, value⟩

theorem hasNumbers (sound : s.IsSound) : s.HasNumbers := by
  intro bound given
  obtain ⟨p, value⟩ := sound.exists_value bound .nan given
  cases value

end Setting.IsSound

namespace Column

/-- The column ranks the first setting before the second. -/
def Precedes (c : Column) (a b : Setting) : Prop :=
  match c with
  | .minArea => AreaPrecedes a.minArea b.minArea
  | .maxArea => AreaPrecedes a.maxArea b.maxArea
  | c => Text.Precedes (a.shownIn c) (b.shownIn c)

/-- The column ranks the settings alike. -/
def Ties (c : Column) (a b : Setting) : Prop :=
  match c with
  | .minArea => AreaTies a.minArea b.minArea
  | .maxArea => AreaTies a.maxArea b.maxArea
  | c => a.shownIn c = b.shownIn c

variable {c : Column} {a b : Setting}

theorem compare_eq_lt_iff (ha : a.IsSound) (hb : b.IsSound) :
    c.compare a b = .lt ↔ c.Precedes a b := by
  rw [compare, c.text_eq_shownIn, c.text_eq_shownIn]
  cases c with
  | minArea => exact compareAreas_eq_lt_iff (ha.exists_value .min) (hb.exists_value .min)
  | maxArea => exact compareAreas_eq_lt_iff (ha.exists_value .max) (hb.exists_value .max)
  | _ => exact Text.compareTexts_eq_lt_iff

theorem compare_eq_eq_iff (ha : a.IsSound) (hb : b.IsSound) :
    c.compare a b = .eq ↔ c.Ties a b := by
  rw [compare, c.text_eq_shownIn, c.text_eq_shownIn]
  cases c with
  | minArea => exact compareAreas_eq_eq_iff (ha.exists_value .min) (hb.exists_value .min)
  | maxArea => exact compareAreas_eq_eq_iff (ha.exists_value .max) (hb.exists_value .max)
  | _ => exact Text.compareTexts_eq_eq_iff

end Column

/-! ## Sorting -/

namespace Grid

variable {sort : SortOrder} {P : Setting → Prop}

theorem SortOrder.isPreorderOn (sort : SortOrder) (numbers : ∀ setting, P setting →
    setting.HasNumbers) : IsPreorderOn sort.compare P :=
  .of_agrees fun a b ha hb => sort.compare_eq_keyCompare (numbers a ha) (numbers b hb)

/-- The rows are those found, in an order that a stable sort may leave them in. -/
structure IsArranged (sort : SortOrder) (found rows : List (Setting × Nat)) : Prop where
  perm : rows.Perm found
  stable : rows.Pairwise (StablyBefore (fun a b => sort.compare a.1 b.1) fun a b => a.2 < b.2)

namespace State

variable {s : State} {settings : List Setting}

/-- What a sorted grid finds can be arranged in one way, and so it is shown. -/
theorem isArranged_iff (sorted : s.sort = some sort)
    (numbers : ∀ setting ∈ settings, setting.HasNumbers) {rows : List (Setting × Nat)} :
    IsArranged sort (s.foundSettings settings) rows ↔ rows = s.shownSettings settings := by
  have shown : IsArranged sort (s.foundSettings settings) (s.shownSettings settings) :=
    ⟨s.shownSettings_perm settings, shownSettings_of_sorted sorted numbers⟩
  constructor
  · rintro ⟨perm, stable⟩
    have given : ∀ r ∈ s.shownSettings settings, r.1.HasNumbers :=
      fun r hr => numbers r.1 (fst_mem_of_mem_shownSettings hr)
    have same := perm.trans shown.perm.symm
    -- Both arrangements follow one relation, which never holds of two rows both ways: rows that
    -- tie still differ in their positions.
    refine List.Perm.eq_of_pairwise ?_ stable shown.stable same
    intro a b ha hb ab ba
    have preorder := sort.isPreorderOn (P := Setting.HasNumbers) fun _ h => h
    have swap := preorder.swap a.1 b.1 (given a (same.mem_iff.mp ha)) (given b hb)
    exact absurd ba (ab.asymm swap Nat.lt_asymm)
  · rintro rfl
    exact shown

/-- There is one way to arrange what the grid finds, and the page shown is cut from it. -/
def SortsInOneWay (s : State) (sort : SortOrder) (settings : List Setting) : Prop :=
  ∃ rows, (∀ other, IsArranged sort (s.foundSettings settings) other ↔ other = rows) ∧
    (s.view settings).rows
      = ((rows.drop ((s.view settings).number * pageSize)).take pageSize).map
          (row s.visibleColumns)

theorem sortsInOneWay (sorted : s.sort = some sort)
    (numbers : ∀ setting ∈ settings, setting.HasNumbers) : s.SortsInOneWay sort settings :=
  ⟨s.shownSettings settings, fun _ => isArranged_iff sorted numbers, s.rows_view settings⟩

end State

end Grid

namespace Column

/-! ## The theorem -/

/-- How a column ranks the settings of which `P` holds. -/
structure Ranks (c : Column) (P : Setting → Prop) : Prop where
  preorder : IsPreorderOn c.compare P
  less : ∀ a b, P a → P b → (c.compare a b = .lt ↔ c.Precedes a b)
  ties : ∀ a b, P a → P b → (c.compare a b = .eq ↔ c.Ties a b)
  zeros : ∀ a b bound, c.area? = some bound → a.area bound = some (.ofRank true 0) →
    b.area bound = some .zero → c.compare a b = .eq
  /-- In either direction a sort by the column has a total preorder again, and leaves no choice. -/
  sorted : ∀ direction, IsPreorderOn (Grid.SortOrder.compare ⟨c, direction⟩) P ∧
    ∀ (s : Grid.State) (settings : List Setting), s.sort = some ⟨c, direction⟩ →
      (∀ setting ∈ settings, P setting) → s.SortsInOneWay ⟨c, direction⟩ settings

theorem ranks_of_isSound (c : Column) {P : Setting → Prop} (sound : ∀ s, P s → s.IsSound) :
    c.Ranks P := by
  have numbers : ∀ s, P s → s.HasNumbers := fun s hs => (sound s hs).hasNumbers
  refine { preorder := Grid.SortOrder.isPreorderOn ⟨c, .ascending⟩ numbers
           less := fun a b ha hb => compare_eq_lt_iff (sound a ha) (sound b hb)
           ties := fun a b ha hb => compare_eq_eq_iff (sound a ha) (sound b hb)
           zeros := ?_, sorted := ?_ }
  · intro a b bound shown negative positive
    rw [compare, shown]
    dsimp only
    rw [negative, positive]
    exact compareAreas_zeros
  · intro direction
    refine ⟨Grid.SortOrder.isPreorderOn ⟨c, direction⟩ numbers, ?_⟩
    intro s settings sorted given
    exact Grid.State.sortsInOneWay sorted fun setting mem => numbers setting (given setting mem)

/-- Every column ranks the settings that pass the check, and so those of every accepted body. -/
theorem ranks_accepted (c : Column) :
    c.Ranks (fun s => s.validate = .ok ()) ∧
      ∀ body settings, Setting.parseAll body = .ok settings → c.Ranks (· ∈ settings) := by
  constructor
  · exact c.ranks_of_isSound fun s passed => Setting.validate_eq_ok_iff.mp passed
  · intro body settings parsed
    have valid := (Setting.parseAll_eq_ok_iff.mp parsed).2
    exact c.ranks_of_isSound fun s mem => .of_isValid (valid s mem)

/-- One small form for three names, both zeros, and areas that are not given. -/
def lookAlikes : List Setting :=
  [⟨7, none, "ας", "box", "mask", some (.ofRank true 0), none⟩,
   ⟨7, none, "ΑΣ", "box", "mask", none, some .zero⟩,
   ⟨7, none, "Ας", "box", "mask", some .zero, some .zero⟩]

def lookAlikesBody : String :=
  "[[7, null, \"ας\", \"box\", \"mask\", -0.0], " ++
  "[7, null, \"ΑΣ\", \"box\", \"mask\", null, 0], [7, null, \"Ας\", \"box\", \"mask\", 0, 0]]"

theorem ranks_lookAlikes :
    Setting.parseAll lookAlikesBody = .ok lookAlikes ∧
      datasetName.Ranks (· ∈ lookAlikes) ∧ minArea.Ranks (· ∈ lookAlikes) := by
  have parsed : Setting.parseAll lookAlikesBody = .ok lookAlikes :=
    Setting.eq_ok_of_toOption (by decide +kernel)
  exact ⟨parsed, (ranks_accepted .datasetName).2 _ _ parsed, (ranks_accepted .minArea).2 _ _ parsed⟩

/-! ### Without the rules -/

/-- NaN ties with every area, so two different areas would have to tie as well. -/
theorem not_isPreorderOn_of_nan {c : Column} {bound : AreaBound} (shown : c.area? = some bound)
    {P : Setting → Prop} {a b other : Setting} (ha : P a) (hb : P b) (hother : P other)
    {x y : Binary64} (givenA : a.area bound = some x) (givenB : b.area bound = some y)
    (less : x.isLess y = true) (nan : other.area bound = some .nan) :
    ¬ IsPreorderOn c.compare P := by
  intro preorder
  have tie : ∀ {s : Setting} {z : Binary64}, s.area bound = some z → c.compare other s = .eq := by
    intro s z given
    rw [compare, shown]
    dsimp only
    rw [nan, given]
    rfl
  have before : c.compare a b = .lt := by
    rw [compare, shown]
    dsimp only
    rw [givenA, givenB, compareAreas, eq_of_beq less]
    rfl
  have alike := (preorder.congr other a b hother ha hb (tie givenA)).1
  rw [tie givenB, before] at alike
  cases alike

end Column

end EvaluationBrowser

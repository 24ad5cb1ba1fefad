/-
# The order of a column

Numbers that do not compare count as equal in a column of areas, so with NaN among them equality
is not transitive. Without NaN a column compares what it shows of the settings as keys of a total
order, `keyCompare`: areas by their places on the line, one that is not given before all others, and
texts by their small forms and then by themselves.
-/
import EvaluationBrowser.Grid.Walk

namespace EvaluationBrowser

open Std

/-- Elements may be compared by something of theirs. -/
theorem transCmp_comap {α β : Type} (cmp : β → β → Ordering) [TransCmp cmp] (f : α → β) :
    TransCmp fun a b => cmp (f a) (f b) where
  eq_swap := OrientedCmp.eq_swap
  isLE_trans := TransCmp.isLE_trans

/-- Both areas, where given, are numbers. -/
def Setting.HasNumbers (s : Setting) : Prop := ∀ bound, s.area bound ≠ some .nan

theorem Binary64.place?_eq_none_iff {x : Binary64} : x.place? = none ↔ x = nan := by
  cases x <;> simp [place?]

/-- Areas compare as their places do. -/
theorem compareAreas_eq {x y : Option Binary64} (hx : x ≠ some .nan) (hy : y ≠ some .nan) :
    compareAreas x y = compare (x.bind Binary64.place?) (y.bind Binary64.place?) := by
  have place : ∀ {z : Binary64}, some z ≠ some .nan → ∃ p, z.place? = some p := by
    intro z hz
    refine Option.ne_none_iff_exists'.mp fun none => hz ?_
    rw [Binary64.place?_eq_none_iff.mp none]
  cases x with
  | none =>
      cases y with
      | none => rfl
      | some y =>
          obtain ⟨p, hp⟩ := place hy
          rw [Option.bind_some, hp]
          rfl
  | some x =>
      obtain ⟨p, hp⟩ := place hx
      cases y with
      | none => rw [Option.bind_some, hp]; rfl
      | some y =>
          obtain ⟨q, hq⟩ := place hy
          rw [Option.bind_some, Option.bind_some, hp, hq, compareAreas, Binary64.compare?, hp, hq]
          rfl

namespace Column

/-- The order of a column, with NaN at the place of an area that is not given. -/
def keyCompare (c : Column) : Setting → Setting → Ordering :=
  match c.area? with
  | some bound => compareOn fun s => (s.area bound).bind Binary64.place?
  | none => fun a b => Text.compareTexts (c.text a) (c.text b)

instance : TransCmp Text.compareTexts :=
  inferInstanceAs (TransCmp (compareLex
    (compareOn fun s : String => Text.lowercaseChars s.toList) (compareOn String.toList)))

instance (c : Column) : TransCmp c.keyCompare := by
  unfold keyCompare
  cases c.area? with
  | some bound => exact inferInstance
  | none => exact transCmp_comap Text.compareTexts c.text

theorem compare_eq_keyCompare (c : Column) {a b : Setting} (ha : a.HasNumbers)
    (hb : b.HasNumbers) : c.compare a b = c.keyCompare a b := by
  unfold compare keyCompare
  cases c.area? with
  | some bound => exact compareAreas_eq (ha bound) (hb bound)
  | none => rfl

end Column

namespace Grid.SortOrder

/-- The order of a sort as that of keys. -/
def keyCompare (sort : SortOrder) : Setting → Setting → Ordering :=
  match sort.direction with
  | .ascending => sort.column.keyCompare
  | .descending => fun a b => sort.column.keyCompare b a

instance (sort : SortOrder) : TransCmp sort.keyCompare := by
  unfold keyCompare
  cases sort.direction with
  | ascending => exact inferInstance
  | descending => exact inferInstance

theorem compare_eq_keyCompare (sort : SortOrder) {a b : Setting} (ha : a.HasNumbers)
    (hb : b.HasNumbers) : sort.compare a b = sort.keyCompare a b := by
  unfold compare keyCompare
  cases sort.direction with
  | ascending => exact sort.column.compare_eq_keyCompare ha hb
  | descending =>
      rw [sort.column.compare_eq_keyCompare ha hb]
      exact OrientedCmp.eq_swap.symm

/-- What comes strictly before by a sort compares less in its order. -/
theorem isBefore_eq (sort : SortOrder) (a b : Setting) :
    State.isBefore sort a b = (sort.compare a b == .lt) := by
  unfold State.isBefore compare
  cases sort.direction with
  | ascending => rfl
  | descending => cases sort.column.compare a b <;> rfl

end Grid.SortOrder

end EvaluationBrowser

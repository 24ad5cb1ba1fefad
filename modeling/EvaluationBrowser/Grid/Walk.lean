/-
# Walking through the pages

A reader who wants to see everything goes to the first page and then steps forward as long as there
is a next page. Stepping changes nothing but the page, so the settings found, their order and the
number of pages stay, and every step brings the last page nearer.
-/
import EvaluationBrowser.Grid.Page

namespace EvaluationBrowser.Grid

/-- The order in which a sort shows settings. -/
def SortOrder.compare (sort : SortOrder) (a b : Setting) : Ordering :=
  match sort.direction with
  | .ascending => sort.column.compare a b
  | .descending => (sort.column.compare a b).swap

namespace State

section Step

variable (s : State) (page count : Nat) (settings : List Setting)

@[simp] theorem shownSettings_setPage :
    (s.setPage page count).shownSettings settings = s.shownSettings settings := rfl

@[simp] theorem visibleColumns_setPage :
    (s.setPage page count).visibleColumns = s.visibleColumns := rfl

@[simp] theorem shownSettings_nextPage :
    (s.nextPage count).shownSettings settings = s.shownSettings settings := rfl

@[simp] theorem visibleColumns_nextPage : (s.nextPage count).visibleColumns = s.visibleColumns :=
  rfl

@[simp] theorem pageCount_view_setPage :
    ((s.setPage page count).view settings).pageCount = (s.view settings).pageCount := rfl

@[simp] theorem pageCount_view_nextPage :
    ((s.nextPage count).view settings).pageCount = (s.view settings).pageCount := rfl

end Step

theorem number_view (s : State) (settings : List Setting) :
    (s.view settings).number = min s.page ((s.view settings).pageCount - 1) := rfl

theorem rows_view (s : State) (settings : List Setting) :
    (s.view settings).rows
      = (((s.shownSettings settings).drop ((s.view settings).number * pageSize)).take pageSize).map
          (row s.visibleColumns) := rfl

/-- A step forward leads to the following page, if there is one. -/
theorem number_view_nextPage {s : State} {settings : List Setting}
    (h : (s.view settings).hasNext = true) :
    ((s.nextPage (s.view settings).pageCount).view settings).number
      = (s.view settings).number + 1 := by
  have next : (s.view settings).number + 1 < (s.view settings).pageCount := of_decide_eq_true h
  rw [number_view] at next
  rw [number_view, number_view, pageCount_view_nextPage]
  simp only [nextPage, setPage, shownPage]
  omega

/-- The page shown and those after it, as a reader sees them who steps to the last one. -/
def pagesFrom (settings : List Setting) (s : State) : List Page :=
  if (s.view settings).hasNext then
    s.view settings :: pagesFrom settings (s.nextPage (s.view settings).pageCount)
  else [s.view settings]
termination_by (s.view settings).pageCount - (s.view settings).number
decreasing_by
  rename_i next
  rw [number_view_nextPage next, pageCount_view_nextPage]
  have := of_decide_eq_true next
  omega

end State

end EvaluationBrowser.Grid

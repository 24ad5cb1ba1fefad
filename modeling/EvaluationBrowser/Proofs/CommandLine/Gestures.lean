/-
# A query and its gestures show the same page

The command sets the sort and goes to the page at once; the reader turns the sort round by clicks
and reaches the page by steps. Each part of a query is followed by its gestures from the state that
the parts before it have made, and the grid ends each part in the same state: the sort and the
filter are set while all columns are shown, so their elements are all there, and a column that is
mentioned again is not clicked again. Only the page is not the same from part to part, since the
command sets it last; steps stop at the last page, which is where the command stops too.
-/
import Mathlib.Data.List.Basic
import EvaluationBrowser.CommandLine.Gestures
import EvaluationBrowser.Proofs.CommandLine.Query
import EvaluationBrowser.Proofs.Grid.Paging

namespace EvaluationBrowser

open Grid (Direction SortOrder State)

namespace Site.GridEvent

variable {settings : List Setting} {s : State}

theorem afterAll?_append {first second : List GridEvent} {s' : State}
    (h : afterAll? settings s first = some s') :
    afterAll? settings s (first ++ second) = afterAll? settings s' second := by
  rw [afterAll?, List.foldlM_append]
  rw [afterAll?] at h
  rw [h]
  rfl

theorem afterAll?_cons {e : GridEvent} {s' : State} (h : e.after? s settings = some s')
    (events : List GridEvent) :
    afterAll? settings s (e :: events) = afterAll? settings s' events := by
  rw [afterAll?, List.foldlM_cons, h]
  rfl

end Site.GridEvent

namespace CommandLine

open Site (GridEvent)

/-! ## The element of a column -/

theorem getElem?_placeAmong {kind : Column → Bool} {c : Column} (isKind : kind c = true) :
    (Column.all.filter kind)[placeAmong kind c]? = some c :=
  List.getElem?_idxOf (List.mem_filter.mpr ⟨Column.mem_all c, isKind⟩)

theorem visibleColumns_of_none_hidden {s : State} (none : s.hidden = []) :
    s.visibleColumns = Column.all := by
  refine List.filter_eq_self.mpr fun c _ => ?_
  rw [State.isHidden, none]
  rfl

section Elements

variable {settings : List Setting} {s s' : State} {c : Column}

theorem after?_heading (none : s.hidden = []) (sortable : c.isSortable = true)
    (done : s.toggleSort c = .ok s') :
    (GridEvent.heading (placeAmong Column.isSortable c)).after? s settings = some s' := by
  have columns : (s.view settings).columns = Column.all := visibleColumns_of_none_hidden none
  have after : s.after (.toggleSort c) = s' := by rw [State.after, State.apply, done]
  simp only [GridEvent.after?, GridEvent.action?]
  rw [columns, getElem?_placeAmong sortable, Option.map_some, Option.map_some, after]

theorem after?_filter (none : s.hidden = []) (filterable : c.isFilterable = true) {text : String}
    (done : s.setFilter c text = .ok s') :
    (GridEvent.filter (placeAmong Column.isFilterable c) text).after? s settings = some s' := by
  have columns : (s.view settings).columns = Column.all := visibleColumns_of_none_hidden none
  have after : s.after (.setFilter c text) = s' := by rw [State.after, State.apply, done]
  simp only [GridEvent.after?, GridEvent.action?]
  rw [columns, getElem?_placeAmong filterable, Option.map_some, Option.map_some, after]

theorem after?_checkbox (settings : List Setting) (hideable : c.isHideable = true)
    (done : s.toggleHidden c = .ok s') :
    (GridEvent.checkbox (placeAmong Column.isHideable c)).after? s settings = some s' := by
  have after : s.after (.toggleHidden c) = s' := by rw [State.after, State.apply, done]
  simp only [GridEvent.after?, GridEvent.action?]
  rw [getElem?_placeAmong hideable, Option.map_some, Option.map_some, after]

/-- Next leads to the page after the one shown. -/
theorem after?_next {n : Nat} (more : n + 1 < (s.view settings).pageCount) :
    (GridEvent.button 1).after? { s with page := n } settings
      = some { s with page := n + 1 } := by
  have count : (({ s with page := n } : State).view settings).pageCount
      = (s.view settings).pageCount := rfl
  simp only [GridEvent.after?, GridEvent.action?]
  rw [count, if_pos (by omega)]
  have next : ({ s with page := n } : State).nextPage (s.view settings).pageCount
      = { s with page := n + 1 } := by
    simp only [State.nextPage, State.setPage, State.shownPage]
    congr 1
    omega
  exact congrArg some next

end Elements

/-! ## Part by part -/

theorem ofField?_of_columnOf {field : String} {c : Column} (named : columnOf field = .ok c) :
    Column.ofField? field = some c := by
  rw [← columnOf_eq_ok_iff.mp named, Column.ofField?_field]

section Parts

variable {s s' : State}

/-- Clicking once or twice sets the sort that is wanted. -/
theorem afterAll?_sortGestures (settings : List Setting) {sort : Option String}
    {isDescending : Bool} (accepted : withSort .initial isDescending sort = .ok s) :
    GridEvent.afterAll? settings .initial (sortGestures sort isDescending) = some s ∧
      s.hidden = [] ∧ s.page = 0 := by
  cases sort with
  | none =>
      cases accepted
      exact ⟨rfl, rfl, rfl⟩
  | some field =>
      obtain ⟨c, column, set⟩ := bind_eq_ok_iff.mp accepted
      obtain ⟨sortable, rfl⟩ := State.setSort_eq_ok_iff.mp (mapError_eq_ok_iff.mp set)
      have gestures : sortGestures (some field) isDescending
          = List.replicate (if isDescending then 2 else 1)
              (.heading (placeAmong Column.isSortable c)) := by
        rw [sortGestures, Option.bind_some, ofField?_of_columnOf column]
      have once : State.initial.toggleSort c = .ok ⟨0, some ⟨c, .ascending⟩, none, []⟩ := by
        rw [State.toggleSort, if_pos sortable]
        rfl
      have twice : State.toggleSort ⟨0, some ⟨c, .ascending⟩, none, []⟩ c
          = .ok ⟨0, some ⟨c, .descending⟩, none, []⟩ := by
        rw [State.toggleSort, if_pos sortable, State.direction?]
        simp
      refine ⟨?_, rfl, rfl⟩
      rw [gestures]
      cases isDescending with
      | false => exact GridEvent.afterAll?_cons (after?_heading rfl sortable once) []
      | true =>
          exact (GridEvent.afterAll?_cons (after?_heading rfl sortable once) _).trans
            (GridEvent.afterAll?_cons (after?_heading rfl sortable twice) [])

theorem afterAll?_filterGestures (settings : List Setting) {filter : Option String}
    (none : s.hidden = []) (first : s.page = 0) (accepted : withFilter s filter = .ok s') :
    GridEvent.afterAll? settings s (filterGestures filter) = some s' ∧
      s'.hidden = [] ∧ s'.page = 0 := by
  cases filter with
  | none =>
      cases accepted
      exact ⟨rfl, none, first⟩
  | some given =>
      simp only [withFilter] at accepted
      simp only [filterGestures]
      revert accepted
      obtain ⟨field, text⟩ := splitAtEquals given.toList
      intro accepted
      cases text with
      | none => cases accepted
      | some text =>
          obtain ⟨c, column, set⟩ := bind_eq_ok_iff.mp accepted
          have set := mapError_eq_ok_iff.mp set
          obtain ⟨filterable, rfl⟩ := State.setFilter_eq_ok_iff.mp set
          dsimp only
          rw [ofField?_of_columnOf column]
          exact ⟨GridEvent.afterAll?_cons (after?_filter none filterable set) [], none, rfl⟩

/-- Of columns that are to be hidden, those that are not hidden yet, each once. -/
def fresh (hidden columns : List Column) : List Column :=
  (columns.filter fun c => !hidden.contains c).eraseDups

theorem fresh_nil (columns : List Column) : fresh [] columns = columns.eraseDups := by
  rw [fresh, List.filter_eq_self.mpr]
  intro _ _
  rfl

theorem fresh_of_hidden {hidden : List Column} {c : Column} (old : hidden.contains c = true)
    (columns : List Column) : fresh hidden (c :: columns) = fresh hidden columns := by
  rw [fresh, List.filter_cons_of_neg (by rw [old]; exact Bool.false_ne_true)]
  rfl

theorem fresh_of_shown {hidden : List Column} {c : Column} (new : hidden.contains c = false)
    (columns : List Column) :
    fresh hidden (c :: columns) = c :: fresh (hidden ++ [c]) columns := by
  have others : (columns.filter fun b => !hidden.contains b).filter (fun b => !b == c)
      = columns.filter fun b => !(hidden ++ [c]).contains b := by
    rw [List.filter_filter]
    congr 1
    funext b
    by_cases same : b = c <;> simp [same]
  rw [fresh, List.filter_cons_of_pos (by rw [new]; rfl), List.eraseDups_cons, others]
  rfl

/-- Hiding columns by name is clicking each of them once. -/
theorem afterAll?_hideGestures (settings : List Setting) {fields : List String}
    (accepted : withHidden s fields = .ok s') :
    GridEvent.afterAll? settings s
        ((fresh s.hidden (fields.filterMap Column.ofField?)).map fun c =>
          .checkbox (placeAmong Column.isHideable c)) = some s' ∧
      s'.page = s.page := by
  induction fields generalizing s with
  | nil =>
      cases accepted
      exact ⟨rfl, rfl⟩
  | cons field fields ih =>
      obtain ⟨c, column, rest⟩ := bind_eq_ok_iff.mp accepted
      dsimp only at rest
      rw [List.filterMap_cons_some (ofField?_of_columnOf column)]
      cases old : s.isHidden c with
      | true =>
          rw [old, if_pos rfl] at rest
          rw [fresh_of_hidden old]
          exact ih rest
      | false =>
          rw [old, if_neg Bool.false_ne_true] at rest
          obtain ⟨_, toggled, rest⟩ := bind_eq_ok_iff.mp rest
          have toggled := mapError_eq_ok_iff.mp toggled
          obtain ⟨hideable, rfl⟩ := State.toggleHidden_eq_ok_iff.mp toggled
          have click := after?_checkbox settings hideable toggled
          rw [old, if_neg Bool.false_ne_true] at click rest
          rw [fresh_of_shown old, List.map_cons, GridEvent.afterAll?_cons click]
          exact ih rest

theorem afterAll?_stepGestures (settings : List Setting) (first : s.page = 0) {steps : Nat}
    (within : steps < (s.view settings).pageCount) :
    GridEvent.afterAll? settings s (List.replicate steps (.button 1))
      = some { s with page := steps } := by
  induction steps with
  | zero =>
      have same : ({ s with page := 0 } : State) = s := by rw [← first]
      rw [same]
      rfl
  | succ steps ih =>
      rw [List.replicate_succ', GridEvent.afterAll?_append (ih (by omega))]
      exact GridEvent.afterAll?_cons (after?_next within) []

end Parts

/-! ## The theorem -/

/-- Done by hand on a fresh grid, a query that is accepted shows the page that the command shows. -/
theorem view_afterAll?_gestures {query : Query} {s : State}
    (accepted : gridState query.sort query.isDescending query.filter query.hidden = .ok s)
    (settings : List Setting) :
    (GridEvent.afterAll? settings .initial
        (query.gestures (Grid.pageCount (settings.filter s.isMatch).length))).map (·.view settings)
      = some (pageOf s query.page settings) := by
  obtain ⟨sorted, filtered, sort, filter, hide⟩ := gridState_eq_ok_iff.mp accepted
  obtain ⟨sortClicks, noneHidden, onFirst⟩ := afterAll?_sortGestures settings sort
  obtain ⟨filterClicks, stillNone, stillFirst⟩ :=
    afterAll?_filterGestures settings noneHidden onFirst filter
  obtain ⟨hideClicks, samePage⟩ := afterAll?_hideGestures settings hide
  have hideClicks : GridEvent.afterAll? settings filtered (hideGestures query.hidden) = some s := by
    rwa [stillNone, fresh_nil] at hideClicks
  have some : 0 < (s.view settings).pageCount := State.pageCount_pos _ _
  have steps := afterAll?_stepGestures settings (samePage.trans stillFirst)
    (show min (max query.page 1) (s.view settings).pageCount - 1 < _ by omega)
  have page : min (max query.page 1) (s.view settings).pageCount - 1
      = min (query.page - 1) ((s.view settings).pageCount - 1) := by omega
  rw [← State.totalRows_view, ← State.pageCount_view, Query.gestures,
    GridEvent.afterAll?_append sortClicks, GridEvent.afterAll?_append filterClicks,
    GridEvent.afterAll?_append hideClicks, stepGestures, steps, page]
  rfl

/-- Two columns are hidden, one of them named twice; the page asked for lies beyond the last. -/
theorem view_afterAll?_of_beyond :
    let query : Query := ⟨"m", 2 ^ 64 - 1, some "max_area", true, some "dataset_name= A",
      ["min_area", "dataset_name", "min_area"], .json⟩
    let s : State := ⟨0, some ⟨.maxArea, .descending⟩, some ⟨.datasetName, " A"⟩,
      [.minArea, .datasetName]⟩
    let settings : List Setting :=
      ⟨8, none, "b", "", "", none, none⟩ :: List.replicate 7 ⟨7, none, "a", "", "", none, none⟩
    gridState query.sort query.isDescending query.filter query.hidden = .ok s ∧
      (GridEvent.afterAll? settings .initial
          (query.gestures (Grid.pageCount (settings.filter s.isMatch).length))).map
            (·.view settings)
        = some (pageOf s query.page settings) := by
  intro query s settings
  have accepted : gridState query.sort query.isDescending query.filter query.hidden = .ok s := by
    decide +kernel
  exact ⟨accepted, view_afterAll?_gestures accepted settings⟩

end CommandLine

end EvaluationBrowser

/-
# The states that actions lead to

Hiding a column takes its first place in the list of hidden columns away, or adds one at the end.
The two undo each other only as long as no column is in the list twice, so that is the invariant
that everything else rests on: which columns are hidden can then be told from how often each was
toggled.

The other invariants come from the checks. Each action asks its column for the ability that it needs
and for nothing else, so whether it is refused does not depend on the state; and what it stores has
the ability that was asked for. Only the link column has none, so it is always shown. It is the last
of all columns, so it is the last of the visible ones.
-/
import Mathlib.Algebra.Ring.Parity
import Mathlib.Data.List.Nodup
import EvaluationBrowser.Proofs.Checks
import EvaluationBrowser.Proofs.Grid.Walk
import EvaluationBrowser.Proofs.Text.Ends

namespace EvaluationBrowser

/-- Only the link column shows no data. -/
theorem Column.eq_metrics {c : Column} (noData : c.isData = false) : c = .metrics := by
  cases c with
  | metrics => rfl
  | _ => cases noData

namespace Grid

/-- The actions that cannot be done in any state, and why: they ask of the link column what only the
other columns can do. -/
inductive Action.IsRefused : Action → Failure → Prop
  | toggleSort : IsRefused (.toggleSort .metrics) (.notSortable .metrics)
  | setSort {d : Direction} : IsRefused (.setSort .metrics d) (.notSortable .metrics)
  | setFilter {text : String} : IsRefused (.setFilter .metrics text) (.notFilterable .metrics)
  | toggleHidden : IsRefused (.toggleHidden .metrics) (.notHideable .metrics)

namespace State

/-- The state after some actions on a fresh grid. Those that fail change nothing. -/
def ofActions (actions : List Action) : State := actions.foldl after initial

/-- How often a column is hidden or shown by some actions, not counting those that fail. -/
def toggleCount (c : Column) (s : State) : List Action → Nat
  | [] => 0
  | action :: actions =>
    (if action = .toggleHidden c ∧ (s.apply action).isOk = true then 1 else 0)
      + toggleCount c (s.after action) actions

/-- What holds of every state that actions lead to. -/
structure WellFormed (s : State) : Prop where
  hidden_nodup : s.hidden.Nodup
  hideable : ∀ c ∈ s.hidden, c.isHideable = true
  sortable : ∀ sort ∈ s.sort, sort.column.isSortable = true
  filterable : ∀ filter ∈ s.filter,
    filter.column.isFilterable = true ∧ Text.isBlankText filter.text = false

/-! ## One action -/

section Action

variable (s : State) (action : Action)

theorem apply_eq_error_iff {failure : Failure} :
    s.apply action = .error failure ↔ action.IsRefused failure := by
  constructor
  · intro refused
    cases action with
    | toggleSort c =>
        obtain ⟨noData, rfl⟩ := ite_eq_error_iff.mp refused
        rw [Column.eq_metrics noData]
        exact .toggleSort
    | setSort c d =>
        obtain ⟨noData, rfl⟩ := ite_eq_error_iff.mp refused
        rw [Column.eq_metrics noData]
        exact .setSort
    | setFilter c text =>
        obtain ⟨noData, rfl⟩ := ite_eq_error_iff.mp refused
        rw [Column.eq_metrics noData]
        exact .setFilter
    | toggleHidden c =>
        obtain ⟨noData, rfl⟩ := ite_eq_error_iff.mp refused
        rw [Column.eq_metrics noData]
        exact .toggleHidden
    | clearFilter => cases refused
    | setPage page count => cases refused
    | nextPage count => cases refused
    | previousPage count => cases refused
  · intro refused
    cases refused <;> rfl

theorem after_of_error {failure : Failure} (refused : s.apply action = .error failure) :
    s.after action = s := by
  simp [after, refused]

theorem after_toggleSort (c : Column) :
    s.after (.toggleSort c) =
      if c.isSortable then
        { s with
          sort :=
            match s.direction? c with
            | none => some ⟨c, .ascending⟩
            | some .ascending => some ⟨c, .descending⟩
            | some .descending => none
          page := 0 }
      else s := by
  simp only [after, apply, toggleSort]
  cases c.isSortable <;> rfl

theorem after_setSort (c : Column) (d : Direction) :
    s.after (.setSort c d) =
      if c.isSortable then { s with sort := some ⟨c, d⟩, page := 0 } else s := by
  simp only [after, apply, setSort]
  cases c.isSortable <;> rfl

theorem after_setFilter (c : Column) (text : String) :
    s.after (.setFilter c text) =
      if c.isFilterable then
        { s with filter := if Text.isBlankText text then none else some ⟨c, text⟩, page := 0 }
      else s := by
  simp only [after, apply, setFilter]
  cases c.isFilterable <;> rfl

theorem after_toggleHidden (c : Column) :
    s.after (.toggleHidden c) =
      if c.isHideable then
        { s with hidden := if s.isHidden c then s.hidden.erase c else s.hidden ++ [c] }
      else s := by
  simp only [after, apply, toggleHidden]
  cases c.isHideable <;> rfl

end Action

/-! ## What one action keeps -/

variable {s : State}

theorem isHidden_iff {c : Column} : s.isHidden c = true ↔ c ∈ s.hidden := List.contains_iff_mem

/-- The link column is never hidden, and it is the last of all. -/
theorem WellFormed.link_last (wf : s.WellFormed) :
    ∃ data, s.visibleColumns = data ++ [.metrics] := by
  have shown : s.isHidden .metrics = false := by
    refine Bool.eq_false_iff.mpr fun hidden => ?_
    have able := wf.hideable .metrics (isHidden_iff.mp hidden)
    cases able
  have link : [Column.metrics].filter (fun c => !s.isHidden c) = [.metrics] := by
    simp [shown]
  have all : Column.all
      = [.datasetName, .predictionTask, .groundTruthTask, .minArea, .maxArea] ++ [.metrics] := rfl
  rw [visibleColumns, all, List.filter_append, link]
  exact ⟨_, rfl⟩

theorem WellFormed.toggled (wf : s.WellFormed) {c : Column} (able : c.isHideable = true) :
    WellFormed { s with hidden := if s.isHidden c then s.hidden.erase c else s.hidden ++ [c] } := by
  cases hidden : s.isHidden c with
  | true =>
      refine { wf with hidden_nodup := wf.hidden_nodup.erase c, hideable := ?_ }
      intro d mem
      exact wf.hideable d (List.mem_of_mem_erase mem)
  | false =>
      have new : c ∉ s.hidden := by simp [← isHidden_iff, hidden]
      refine { wf with hidden_nodup := ?_, hideable := ?_ }
      · rw [if_neg Bool.false_ne_true, ← List.concat_eq_append]
        exact wf.hidden_nodup.concat new
      · intro d mem
        rcases List.mem_append.mp mem with old | same
        · exact wf.hideable d old
        · rwa [List.mem_singleton.mp same]

/-- What an action stores has the ability that the action asked for. -/
theorem WellFormed.after (wf : s.WellFormed) (action : Action) : (s.after action).WellFormed := by
  cases action with
  | toggleSort c =>
      rw [after_toggleSort]
      split
      · next able =>
        refine { wf with sortable := ?_ }
        intro sort mem
        dsimp only at mem
        split at mem <;> cases mem <;> exact able
      · exact wf
  | setSort c d =>
      rw [after_setSort]
      split
      · next able =>
        refine { wf with sortable := ?_ }
        intro sort mem
        cases mem
        exact able
      · exact wf
  | setFilter c text =>
      rw [after_setFilter]
      split
      · next able =>
        refine { wf with filterable := ?_ }
        intro filter mem
        dsimp only at mem
        split at mem
        · cases mem
        · next given =>
          cases mem
          exact ⟨able, Bool.eq_false_iff.mpr given⟩
      · exact wf
  | toggleHidden c =>
      rw [after_toggleHidden]
      split
      · next able => exact wf.toggled able
      · exact wf
  | clearFilter => exact { wf with filterable := fun _ mem => nomatch mem }
  | setPage page count => exact { wf with }
  | nextPage count => exact { wf with }
  | previousPage count => exact { wf with }

/-- Whatever else is done to a grid, a column changes sides exactly when it is toggled. -/
theorem WellFormed.isHidden_after (wf : s.WellFormed) (action : Action) (c : Column) :
    (s.after action).isHidden c
      = (s.isHidden c ^^ decide (action = .toggleHidden c ∧ (s.apply action).isOk = true)) := by
  cases action with
  | toggleHidden d =>
      cases able : d.isHideable with
      | false =>
          simp [after_toggleHidden, apply, toggleHidden, able, Except.isOk, Except.toBool]
      | true =>
          have done : (s.apply (.toggleHidden d)).isOk = true := by
            simp [apply, toggleHidden, able, Except.isOk, Except.toBool]
          rw [after_toggleHidden, if_pos able]
          simp only [done, and_true, Action.toggleHidden.injEq]
          by_cases same : d = c
          · subst same
            cases hidden : s.isHidden d with
            | true => simp [isHidden, wf.hidden_nodup.mem_erase_iff]
            | false => simp [isHidden]
          · have other : c ≠ d := fun eq => same eq.symm
            cases hidden : s.isHidden d with
            | true => simp [isHidden, same, other]
            | false => simp [isHidden, same, other]
  | toggleSort d => rw [after_toggleSort]; split <;> simp [isHidden]
  | setSort d direction => rw [after_setSort]; split <;> simp [isHidden]
  | setFilter d text => rw [after_setFilter]; split <;> simp [isHidden]
  | clearFilter => simp [State.after, apply, clearFilter, isHidden]
  | setPage page count => simp [State.after, apply, setPage, isHidden]
  | nextPage count => simp [State.after, apply, nextPage, setPage, isHidden]
  | previousPage count => simp [State.after, apply, previousPage, isHidden]

/-! ## Many actions -/

theorem wellFormed_initial : initial.WellFormed where
  hidden_nodup := .nil
  hideable := by intro c mem; cases mem
  sortable := by intro sort mem; cases mem
  filterable := by intro filter mem; cases mem

theorem WellFormed.foldl (wf : s.WellFormed) (actions : List Action) :
    (actions.foldl State.after s).WellFormed := by
  induction actions generalizing s with
  | nil => exact wf
  | cons action actions ih => exact ih (wf.after action)

theorem wellFormed_ofActions (actions : List Action) : (ofActions actions).WellFormed :=
  wellFormed_initial.foldl actions

/-- Sides are counted modulo two, from the side that the column is on at first. -/
theorem WellFormed.isHidden_foldl (wf : s.WellFormed) (actions : List Action) (c : Column) :
    ((actions.foldl State.after s).isHidden c).toNat
      = ((s.isHidden c).toNat + toggleCount c s actions) % 2 := by
  induction actions generalizing s with
  | nil =>
      have small := (s.isHidden c).toNat_lt
      simp only [List.foldl_nil, toggleCount]
      omega
  | cons action actions ih =>
      rw [List.foldl_cons, ih (wf.after action), wf.isHidden_after, toggleCount]
      by_cases done : action = .toggleHidden c ∧ (s.apply action).isOk = true
      · rw [decide_eq_true done, if_pos done]
        cases s.isHidden c with
        | false =>
            simp only [Bool.false_xor, Bool.toNat_false, Bool.toNat_true]
            omega
        | true =>
            simp only [Bool.xor_self, Bool.toNat_false, Bool.toNat_true]
            omega
      · rw [decide_eq_false done, if_neg done, Bool.xor_false, Nat.zero_add]

theorem isHidden_ofActions_iff (actions : List Action) (c : Column) :
    (ofActions actions).isHidden c = true ↔ Odd (toggleCount c initial actions) := by
  have count := wellFormed_initial.isHidden_foldl actions c
  have shown : (initial.isHidden c).toNat = 0 := rfl
  rw [shown, Nat.zero_add] at count
  rw [Nat.odd_iff, ← count, ofActions]
  exact Bool.toNat_eq_one.symm

theorem visibleColumns_ofActions (actions : List Action) :
    ∃ data, (ofActions actions).visibleColumns = data ++ [.metrics] :=
  (wellFormed_ofActions actions).link_last

/-! ## Rows -/

/-- A row shows the setting at its own position. -/
theorem exists_setting_of_mem_rows {settings : List Setting} {r : Row}
    (mem : r ∈ (s.view settings).rows) :
    ∃ setting, settings[r.index]? = some setting ∧ r.id = setting.id ∧
      r.cells = s.visibleColumns.map setting.cellIn := by
  rw [rows_view] at mem
  obtain ⟨of, shown, rfl⟩ := List.mem_map.mp mem
  have found := mem_shownSettings.mp (List.mem_of_mem_drop (List.mem_of_mem_take shown))
  rw [row_eq]
  exact ⟨of.1, found.1, rfl, rfl⟩

/-- Outside a browser it tells the texts of that setting. -/
theorem exported_of_mem_rows {settings : List Setting} {r : Row}
    (mem : r ∈ (s.view settings).rows) :
    ∃ setting, settings[r.index]? = some setting ∧ r.id = setting.id ∧
      r.cells.map Cell.exported = s.visibleColumns.map setting.textIn := by
  obtain ⟨setting, found, id, cells⟩ := exists_setting_of_mem_rows mem
  refine ⟨setting, found, id, ?_⟩
  rw [cells, List.map_map]
  exact List.map_congr_left fun c _ => setting.exported_cellIn c

/-! ## The theorem -/

/-- What a page shows of settings: under every visible column, the cells of that column. -/
structure LinesUp (s : State) (settings : List Setting) (page : Page) : Prop where
  columns : page.columns = Column.all.filter fun c => decide (c ∉ s.hidden)
  link_last : ∃ data, page.columns = data ++ [.metrics]
  /-- A row has the identifier and the cells of the setting at its own position. -/
  rows : ∀ r ∈ page.rows, ∃ setting, settings[r.index]? = some setting ∧ r.id = setting.id ∧
    r.cells.length = page.columns.length ∧
    ∀ (j : Nat) (c : Column), page.columns[j]? = some c → r.cells[j]? = some (setting.cellIn c)

/-- What the actions done to a grid make of it. -/
structure KeptBy (actions : List Action) (s : State) : Prop where
  hidden_once : s.hidden.Nodup
  link_shown : .metrics ∉ s.hidden
  hidden_iff : ∀ c, c ∈ s.hidden ↔ Odd (toggleCount c initial actions)
  sort : ∀ sort, s.sort = some sort → sort.column.isSortable = true
  /-- The text of a filter has a character that is not white space. -/
  filter : ∀ filter, s.filter = some filter →
    filter.column.isFilterable = true ∧ ∃ c ∈ filter.text.toList, Text.isBlank c = false
  /-- What is refused is refused by the column alone. -/
  refused_iff : ∀ action failure, s.apply action = .error failure ↔ action.IsRefused failure
  unchanged : ∀ action failure, s.apply action = .error failure →
    ofActions (actions ++ [action]) = s
  linesUp : ∀ settings, s.LinesUp settings (s.view settings)

theorem linesUp_view (actions : List Action) (settings : List Setting) :
    (ofActions actions).LinesUp settings ((ofActions actions).view settings) where
  columns := by
    refine List.filter_congr fun c _ => ?_
    simp [isHidden]
  link_last := visibleColumns_ofActions actions
  rows := by
    intro r mem
    obtain ⟨setting, found, id, cells⟩ := exists_setting_of_mem_rows mem
    refine ⟨setting, found, id, ?_, ?_⟩
    · rw [cells, List.length_map]
      rfl
    · intro j c column
      rw [cells, List.getElem?_map]
      exact Option.map_eq_some_iff.mpr ⟨c, column, rfl⟩

/-- Whatever is done to a fresh grid, refused actions included: no column is hidden twice and the
link column never, a column is hidden iff it was toggled an odd number of times, and the cells of
every page line up with its columns. -/
theorem keptBy_ofActions (actions : List Action) : KeptBy actions (ofActions actions) := by
  have wf := wellFormed_ofActions actions
  refine { hidden_once := wf.hidden_nodup, link_shown := ?_, hidden_iff := ?_, sort := ?_,
           filter := ?_, refused_iff := ?_, unchanged := ?_, linesUp := linesUp_view actions }
  · intro hidden
    cases wf.hideable .metrics hidden
  · intro c
    rw [← isHidden_iff, isHidden_ofActions_iff]
  · intro sort sorted
    exact wf.sortable sort sorted
  · intro filter filtered
    obtain ⟨able, given⟩ := wf.filterable filter filtered
    refine ⟨able, ?_⟩
    by_contra blank
    have all : ∀ c ∈ filter.text.toList, Text.isBlank c = true := by
      intro c mem
      by_contra other
      exact blank ⟨c, mem, Bool.eq_false_iff.mpr other⟩
    rw [Text.isBlankText_iff.mpr all] at given
    cases given
  · intro action failure
    exact apply_eq_error_iff _ action
  · intro action failure refused
    rw [ofActions, List.foldl_append]
    exact after_of_error _ action refused

end State

end Grid

end EvaluationBrowser

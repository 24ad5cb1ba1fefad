/-
# What a grid shows agrees with itself and with what was done

The headings, the boxes above the columns, the rows, the buttons and the line that says that there
are no rows are made one by one from the state and the settings. Here they are read off the HTML
again, and what is read is compared with five things: the columns, the direction in which each of
them is sorted, the filter, the settings that it leaves, and the number of the page. The first three
depend on nothing but what the reader did.

The sort or the filter may be on a column that is hidden. Then nothing of them is seen, since arrows
and boxes stand in the cells of visible columns only, while the rows still follow them.
-/
import Mathlib.Data.List.Count
import Mathlib.Data.List.Forall2
import EvaluationBrowser.Proofs.Site.GridHtml
import EvaluationBrowser.Proofs.Site.Interleaving
import EvaluationBrowser.Proofs.Site.LiveGrid

namespace EvaluationBrowser.Site

open Grid (Direction Filter State)

/-! ## What is to be seen -/

/-- The heading of a column. An arrow is there only where the column is sorted. -/
structure IsHeading (direction? : Column → Option Direction) (c : Column) (cell : Html) : Prop where
  tag : cell.tag? = some "th"
  heading : c.heading.toList <+: cell.innerText
  arrow_iff : ∀ d : Direction, d.arrow.toList <:+: cell.innerText ↔ direction? c = some d

/-- The cell above a column, with a box if the column can be filtered. A box that is not empty has
the text of the filter, as it was typed. -/
structure IsFilterCell (filter : Option Filter) (c : Column) (cell : Html) : Prop where
  tag : cell.tag? = some "th"
  box : cell.boundTexts.length = if c.isFilterable then 1 else 0
  text_iff : ∀ text, text ≠ "" → (text ∈ cell.boundTexts ↔ filter = some ⟨c, text⟩)

/-- The cell of a setting in a column. Only the link column has a link. -/
structure IsCell (path : String) (setting : Setting) (c : Column) (cell : Html) : Prop where
  tag : cell.tag? = some "td"
  text : cell.innerText = (Html.shown (setting.shownIn c)).innerText
  link : (cell.withTag "a").filterMap (Html.value? "href")
    = if c = .metrics then [path ++ "/" ++ setting.textIn c] else []

structure IsButton (label : String) (disabled : Prop) (h : Html) : Prop where
  label : h.innerText = label.toList
  disabled_iff : h.isMarked "disabled" = true ↔ disabled

/-- The HTML of a grid that shows one page of these settings. -/
structure Displays (path : String) (columns : List Column) (direction? : Column → Option Direction)
    (filter : Option Filter) (shown : List Setting) (number : Nat) (html : Html) : Prop where
  link_last : ∃ data, columns = data ++ [.metrics]
  /-- All rows of the table have a cell for every column, in the order of the columns. -/
  table : ∃ headings boxes body, html.withTag "tr" = headings :: boxes :: body ∧
    List.Forall₂ (IsHeading direction?) columns headings.children ∧
    List.Forall₂ (IsFilterCell filter) columns boxes.children ∧
    List.Forall₂ (fun setting row => List.Forall₂ (IsCell path setting) columns row.children)
      ((shown.drop (number * 5)).take 5) body
  /-- At most one box has a text. -/
  texts : html.boundTexts.filter (· ≠ "")
    = (filter.toList.filter fun f => decide (f.column ∈ columns)).map Filter.text
  number_lt : number = 0 ∨ number * 5 < shown.length
  no_buttons : shown.length ≤ 5 → html.withTag "button" = []
  buttons : 5 < shown.length → ∃ previous next, html.withTag "button" = [previous, next] ∧
    IsButton "Previous" (number = 0) previous ∧
    IsButton "Next" (shown.length ≤ (number + 1) * 5) next
  noRows_iff : (∃ p ∈ html.withTag "p", p.innerText = "No rows".toList) ↔ shown = []

namespace GridView

open Html

/-! ## Cells -/

theorem arrow_headingHtml_iff {h : Heading}
    (able : h.direction.isSome = true → h.column.isSortable = true) (d : Direction) :
    d.arrow.toList <:+: (headingHtml h).innerText ↔ h.direction = some d := by
  rw [innerText_headingHtml]
  obtain ⟨c, direction⟩ := h
  cases direction with
  | none => cases c <;> cases d <;> decide +kernel
  | some e =>
      cases c with
      | metrics => cases able rfl
      | _ => cases d <;> cases e <;> decide +kernel

section Cells

variable {s : State}

theorem isHeading_headingHtml (wf : s.WellFormed) (c : Column) :
    IsHeading s.direction? c (headingHtml ⟨c, s.direction? c⟩) := by
  have able : (s.direction? c).isSome = true → c.isSortable = true := by
    intro sorted
    unfold State.direction? at sorted
    split at sorted
    · next sort found =>
        split at sorted
        · next same => exact same ▸ wf.sortable sort found
        · cases sorted
    · cases sorted
  refine { tag := ?_, heading := ?_, arrow_iff := arrow_headingHtml_iff able }
  · unfold headingHtml
    split <;> rfl
  · rw [innerText_headingHtml]
    refine List.IsPrefix.trans ?_ (List.prefix_append ..)
    by_cases empty : c.heading = ""
    · simp [empty]
    · simp [shown, empty]

theorem isFilterCell_filterHtml (wf : s.WellFormed) (c : Column) :
    IsFilterCell s.filter c (filterHtml (filterBox s c)) := by
  refine { tag := rfl, box := ?_, text_iff := ?_ }
  · rw [boundTexts_filterHtml, filterBox]
    cases c.isFilterable <;> rfl
  · intro text given
    rw [boundTexts_filterHtml, filterBox]
    cases able : c.isFilterable with
    | false =>
        have other : s.filter ≠ some ⟨c, text⟩ := by
          intro filtered
          have := (wf.filterable _ filtered).1
          rw [able] at this
          cases this
        simp [other]
    | true =>
        simp only [if_true, Option.toList_some, List.mem_singleton, State.filterText]
        cases s.filter with
        | none => simp [given]
        | some filter =>
            obtain ⟨column, typed⟩ := filter
            by_cases same : column = c
            · simp [same, eq_comm]
            · simp [same, given]

theorem isCell_cellHtml (path : String) (setting : Setting) (c : Column) :
    IsCell path setting c (cellHtml path (c.cell setting)) := by
  rw [c.cell_eq_cellIn]
  cases c with
  | metrics =>
      refine { tag := rfl, text := ?_, link := ?_ }
      · simp [cellHtml, Setting.cellIn, plain, Setting.shownIn]
      · simp [cellHtml, Setting.cellIn, plain, value?, attributes]
  | _ =>
      refine { tag := rfl, text := ?_, link := ?_ }
      · simp [cellHtml, Setting.cellIn, plain, Setting.shownIn]
      · simp [cellHtml, Setting.cellIn, plain]

theorem isButton_button {disabled : Bool} {p : Prop} (same : disabled = true ↔ p)
    (cls label : String) : IsButton label p (button disabled cls label) where
  label := by simp [button]
  disabled_iff := by
    rw [← same]
    cases disabled <;> simp [button, isMarked, attributes]

end Cells

/-! ## Boxes -/

section Boxes

variable (s : State)

theorem visibleColumns_nodup : s.visibleColumns.Nodup := by
  have all : Column.all.Nodup := by decide
  exact all.filter _

theorem filterMap_filterBox (columns : List Column) :
    (columns.map (filterBox s)).filterMap FilterBox.text
      = (columns.filter Column.isFilterable).map s.filterText := by
  rw [List.filterMap_map, ← List.filterMap_eq_map, List.filterMap_filter]
  refine List.filterMap_congr fun c _ => ?_
  simp only [Function.comp_apply, filterBox]

variable {s}

/-- Of a filter whose column is hidden nothing is seen. -/
theorem texts_visibleColumns (wf : s.WellFormed) :
    ((s.visibleColumns.map (filterBox s)).filterMap FilterBox.text).filter (· ≠ "")
      = (s.filter.toList.filter fun f => decide (f.column ∈ s.visibleColumns)).map Filter.text := by
  rw [filterMap_filterBox, List.filter_map, List.filter_filter]
  cases filtered : s.filter with
  | none =>
      have empty : ∀ c, s.filterText c = "" := by
        intro c
        rw [State.filterText, filtered]
      simp [empty]
  | some filter =>
      obtain ⟨able, given⟩ := wf.filterable filter filtered
      have nonempty : filter.text ≠ "" := by
        intro empty
        rw [empty] at given
        cases given
      have text : ∀ c, s.filterText c = if filter.column = c then filter.text else "" := by
        intro c
        rw [State.filterText, filtered]
      have column : (s.visibleColumns.filter fun c =>
            Function.comp (fun t => decide (t ≠ "")) s.filterText c && c.isFilterable)
          = s.visibleColumns.filter (· == filter.column) := by
        refine List.filter_congr fun c _ => ?_
        by_cases same : filter.column = c
        · subst same
          simp [text, nonempty, able]
        · have other : c ≠ filter.column := fun eq => same eq.symm
          simp [text, same, other]
      rw [column, List.filter_beq, (visibleColumns_nodup s).count]
      by_cases visible : filter.column ∈ s.visibleColumns
      · simp [visible, text]
      · simp [visible]

end Boxes

/-! ## Rows -/

section Rows

variable {s : State}

theorem forall₂_map_map {α β γ : Type} {R : α → γ → Prop} {f : β → γ} {g : α → β}
    (all : ∀ a, R a (f (g a))) (as : List α) : List.Forall₂ R as ((as.map g).map f) := by
  refine List.forall₂_map_right_iff.mpr (List.forall₂_map_right_iff.mpr ?_)
  exact List.forall₂_same.mpr fun a _ => all a

theorem table_html (wf : s.WellFormed) (settings : List Setting) (path : String) :
    ∃ headings boxes body,
      ((GridView.of s settings).html path).withTag "tr" = headings :: boxes :: body ∧
        List.Forall₂ (IsHeading s.direction?) s.visibleColumns headings.children ∧
        List.Forall₂ (IsFilterCell s.filter) s.visibleColumns boxes.children ∧
        List.Forall₂
          (fun setting row => List.Forall₂ (IsCell path setting) s.visibleColumns row.children)
          ((((s.shownSettings settings).map Prod.fst).drop ((s.view settings).number * 5)).take 5)
          body := by
  refine ⟨_, _, _, withTag_tr_html .., ?_, ?_, ?_⟩
  · exact forall₂_map_map (isHeading_headingHtml wf) s.visibleColumns
  · exact forall₂_map_map (isFilterCell_filterHtml wf) s.visibleColumns
  · rw [← List.map_drop, ← List.map_take]
    refine List.forall₂_map_left_iff.mpr (List.forall₂_map_right_iff.mpr ?_)
    refine forall₂_map_map (fun r => ?_) _
    exact forall₂_map_map (isCell_cellHtml path r.1) s.visibleColumns

end Rows

/-! ## The whole grid -/

theorem displays_html {s : State} (wf : s.WellFormed) (settings : List Setting) (path : String) :
    Displays path s.visibleColumns s.direction? s.filter
      ((s.shownSettings settings).map Prod.fst) (s.view settings).number
      ((GridView.of s settings).html path) := by
  have total : ((s.shownSettings settings).map Prod.fst).length = (s.view settings).totalRows :=
    List.length_map ..
  refine { link_last := wf.link_last, table := table_html wf settings path, texts := ?_,
           number_lt := ?_, no_buttons := ?_, buttons := ?_, noRows_iff := ?_ }
  · rw [boundTexts_html]
    exact texts_visibleColumns wf
  · rw [total]
    exact s.number_view_mul_lt settings
  · intro few
    have one : ¬1 < (s.view settings).pageCount := by
      rw [s.one_lt_pageCount_view, ← total, Grid.pageSize]
      omega
    rw [withTag_button_html, GridView.of, if_neg one]
    rfl
  · intro many
    have more : 1 < (s.view settings).pageCount := by
      rw [s.one_lt_pageCount_view, ← total, Grid.pageSize]
      exact many
    rw [withTag_button_html, GridView.of, if_pos more]
    refine ⟨_, _, rfl, isButton_button ?_ .., isButton_button ?_ ..⟩
    · rw [Bool.not_eq_true', ← Bool.not_eq_true, s.hasPrevious_view, not_not]
    · rw [Bool.not_eq_true', ← Bool.not_eq_true, s.hasNext_view, ← total, Nat.not_lt, Grid.pageSize]
  · rw [withTag_p_html, overlayHtml, GridView.of, ← List.length_eq_zero_iff, total,
      ← s.isEmpty_view]
    cases (s.view settings).isEmpty <;> simp [ofClass]

end GridView

namespace LiveGrid

open Grid (Action)

/-- Whatever the reader does and whatever settings come: what the grid shows agrees with itself, and
with what the reader did. -/
theorem displays_afterAll (settings : List Setting) (events : List Event) (path : String) :
    let g := (fresh settings).afterAll events
    let actions := (fresh settings).actions events
    let filter := Grid.filterOfTexts (actions.filterMap Action.typed?)
    g.shown.Perm (Grid.matching filter g.settings) ∧
      (∀ setting, setting ∈ g.shown ↔
        setting ∈ g.settings ∧ ∀ f, filter = some f → f.Finds setting) ∧
      Displays path (Grid.columnsOfTicks (actions.filterMap Action.ticked?))
        (Grid.directionOfClicks (actions.filterMap Action.clicked?)) filter g.shown g.number
        (g.html path) := by
  intro g actions filter
  have gestures : ∀ action ∈ actions, action.IsGesture := isGesture_of_mem_actions
  have state : g.state = State.ofActions actions := state_fresh_afterAll settings events
  have filtered : g.state.filter = filter := by
    rw [state]
    exact State.filter_ofActions gestures
  have columns : g.state.visibleColumns
      = Grid.columnsOfTicks (actions.filterMap Action.ticked?) := by
    rw [state]
    exact State.visibleColumns_of_gestures gestures
  have directions : g.state.direction?
      = Grid.directionOfClicks (actions.filterMap Action.clicked?) := by
    funext c
    rw [state]
    exact State.direction?_ofActions gestures c
  have wf : g.state.WellFormed := by
    rw [state]
    exact State.wellFormed_ofActions actions
  have found : g.shown.Perm (Grid.matching filter g.settings) := by
    rw [← filtered]
    exact g.state.map_fst_shownSettings_perm g.settings
  refine ⟨found, fun setting => ?_, ?_⟩
  · rw [found.mem_iff, Grid.matching, List.mem_filter, State.isMatch_iff]
  · rw [← columns, ← directions, ← filtered]
    exact GridView.displays_html wf g.settings path

end LiveGrid

/-! ## The grid of a model's page -/

namespace ModelPage

/-- The grid on a page, with the rows that it has at the time. -/
def liveGrid (p : ModelPage) : LiveGrid := ⟨p.grid, p.rows⟩

theorem liveGrid_after (built : Option String) (p : ModelPage) (event : Event) :
    ∃ event', (p.after built event).liveGrid = p.liveGrid.after event' := by
  cases event with
  | grid event =>
      refine ⟨.reader event, ?_⟩
      simp only [after, after?, liveGrid, LiveGrid.after]
      cases event.after? p.grid p.rows <;> rfl
  | route parameter =>
      refine ⟨.give (p.after built (.route parameter)).rows, ?_⟩
      rw [liveGrid, after_route, grid_lookAtRoute]
      rfl
  | respond request reply =>
      refine ⟨.give (p.after built (.respond request reply)).rows, ?_⟩
      rw [liveGrid, grid_respond]
      rfl

/-- Whatever comes to a page, its grid is one that the reader and the page have brought about. -/
theorem liveGrid_ofEvents (built : Option String) (parameter : String) (events : List Event) :
    ∃ events',
      (ofEvents built parameter events).liveGrid = (LiveGrid.fresh []).afterAll events' := by
  induction events using List.reverseRecOn with
  | nil => exact ⟨[], rfl⟩
  | append_singleton events event ih =>
      obtain ⟨events', before⟩ := ih
      obtain ⟨event', last⟩ := liveGrid_after built (ofEvents built parameter events) event
      refine ⟨events' ++ [event'], ?_⟩
      have grown : ofEvents built parameter (events ++ [event])
          = (ofEvents built parameter events).after built event := by
        simp [ofEvents, afterAll]
      rw [grown, last, before]
      simp [LiveGrid.afterAll]

end ModelPage

end EvaluationBrowser.Site

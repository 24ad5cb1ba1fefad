/-
# What stands where in the HTML of a grid

The rows of a table hold cells, the cells hold arrows, boxes and links, and everything else stands
around the table. Reading for one tag at a time therefore comes down to one part of the HTML: rows
are found in the table only, boxes in the toggles and the second row, buttons and the line that says
that there are no rows only below the table.
-/
import EvaluationBrowser.Site.DataGrid
import EvaluationBrowser.Site.Reading

namespace EvaluationBrowser.Site.GridView

open Html

variable (path : String) (v : GridView)

/-! ## The elements -/

theorem withTag_toggleHtml (toggle : Column × Bool) {tag : String} (notLabel : "label" ≠ tag)
    (notBox : "input" ≠ tag) : (toggleHtml toggle).withTag tag = [] := by
  simp [toggleHtml, ofClass, notLabel, notBox]

theorem boundTexts_toggleHtml (toggle : Column × Bool) : (toggleHtml toggle).boundTexts = [] := by
  simp [boundTexts, toggleHtml, ofClass, value?, attributes]

theorem withTag_headingHtml (h : Heading) {tag : String} (notCell : "th" ≠ tag)
    (notArrow : "span" ≠ tag) : (headingHtml h).withTag tag = [] := by
  unfold headingHtml
  split <;> simp [ofClass, notCell, notArrow]

theorem innerText_headingHtml (h : Heading) :
    (headingHtml h).innerText = (shown h.column.heading).innerText ++
      if h.column.isSortable then
        ' ' :: (shown (h.direction.elim "" Grid.Direction.arrow)).innerText
      else [] := by
  unfold headingHtml
  cases h.column.isSortable <;> simp [ofClass]

theorem withTag_filterHtml (f : FilterBox) {tag : String} (notCell : "th" ≠ tag)
    (notBox : "input" ≠ tag) : (filterHtml f).withTag tag = [] := by
  unfold filterHtml
  cases f.text <;> simp [plain, notCell, notBox]

theorem boundTexts_filterHtml (f : FilterBox) : (filterHtml f).boundTexts = f.text.toList := by
  unfold filterHtml
  cases f.text <;> simp [boundTexts, plain, value?, attributes]

theorem withTag_cellHtml (cell : Cell) {tag : String} (notCell : "td" ≠ tag)
    (notLink : "a" ≠ tag) : (cellHtml path cell).withTag tag = [] := by
  cases cell <;> simp [cellHtml, plain, notCell, notLink]

/-! ## The parts -/

/-- The rows of the table, the heads among them. -/
def rowsHtml : List Html :=
  plain "tr" (v.headings.map headingHtml) ::
    ofClass "tr" "filter-row" (v.filters.map filterHtml) ::
      v.rows.map fun cells => ofClass "tr" "grid-row" (cells.map (cellHtml path))

def overlayHtml : List Html :=
  if v.noRows then [ofClass "p" "placeholder grid-overlay" [.text "No rows"]] else []

/-- Leaving out what only holds the parts together. -/
theorem withTag_html {tag : String}
    (notPart : ∀ t ∈ ["div", "table", "thead", "tbody"], t ≠ tag) :
    (v.html path).withTag tag =
      (v.toggles.map toggleHtml).flatMap (withTag tag) ++
        ((v.rowsHtml path).flatMap (withTag tag) ++
          (v.overlayHtml.flatMap (withTag tag) ++
            ((if "span" = tag then [ofClass "span" "grid-range" [shown v.range]] else []) ++
              (v.buttons.elim [] buttonsHtml).flatMap (withTag tag)))) := by
  simp only [List.forall_mem_cons, List.not_mem_nil, false_imp_iff, implies_true] at notPart
  obtain ⟨notDiv, notTable, notHead, notBody, -⟩ := notPart
  simp [html, rowsHtml, overlayHtml, ofClass, plain, notDiv, notTable, notHead, notBody]

theorem withTag_row {tag : String} (notCell : "td" ≠ tag) (notLink : "a" ≠ tag)
    (cells : List Cell) :
    (ofClass "tr" "grid-row" (cells.map (cellHtml path))).withTag tag
      = if "tr" = tag then [ofClass "tr" "grid-row" (cells.map (cellHtml path))] else [] := by
  have none := flatMap_withTag_of_none tag fun cell => withTag_cellHtml path cell notCell notLink
  simp [ofClass, none]

theorem flatMap_withTag_rowsHtml {tag : String}
    (notPart : ∀ t ∈ ["tr", "th", "td", "span", "a"], t ≠ tag) :
    (v.rowsHtml path).flatMap (withTag tag)
      = (v.filters.map filterHtml).flatMap (withTag tag) := by
  simp only [List.forall_mem_cons, List.not_mem_nil, false_imp_iff, implies_true] at notPart
  obtain ⟨notRow, notHead, notCell, notArrow, notLink, -⟩ := notPart
  have headings := flatMap_withTag_of_none tag (fun h => withTag_headingHtml h notHead notArrow)
    v.headings
  have rows := flatMap_withTag_of_none tag
    (fun cells => (withTag_row path notCell notLink cells).trans (if_neg notRow)) v.rows
  rw [rowsHtml, List.flatMap_cons, List.flatMap_cons, rows]
  simp [plain, ofClass, notRow, headings]

theorem flatMap_withTag_tr_rowsHtml :
    (v.rowsHtml path).flatMap (withTag "tr") = v.rowsHtml path := by
  have headings := flatMap_withTag_of_none "tr"
    (fun h => withTag_headingHtml h (by simp) (by simp)) v.headings
  have filters := flatMap_withTag_of_none "tr"
    (fun f => withTag_filterHtml f (by simp) (by simp)) v.filters
  have rows := flatMap_withTag_of_one "tr"
    (fun cells => (withTag_row path (by simp) (by simp) cells).trans (if_pos rfl)) v.rows
  rw [rowsHtml, List.flatMap_cons, List.flatMap_cons, rows]
  simp [plain, ofClass, headings, filters]

/-! ## Reading for one tag -/

theorem withTag_tr_html : (v.html path).withTag "tr" = v.rowsHtml path := by
  have toggles := flatMap_withTag_of_none "tr"
    (fun toggle => withTag_toggleHtml toggle (by simp) (by simp)) v.toggles
  rw [withTag_html _ _ (by simp), toggles, flatMap_withTag_tr_rowsHtml, overlayHtml]
  cases v.noRows <;> cases v.buttons <;> simp [button, buttonsHtml, ofClass]

/-- Elements of other kinds than those of the toggles and the table stand below the table. -/
theorem withTag_html_of_below {tag : String}
    (notPart : ∀ t ∈ ["div", "table", "thead", "tbody", "tr", "th", "td", "span", "a", "label",
      "input"], t ≠ tag) :
    (v.html path).withTag tag =
      v.overlayHtml.flatMap (withTag tag)
        ++ (v.buttons.elim [] buttonsHtml).flatMap (withTag tag) := by
  have notLabel : "label" ≠ tag := notPart _ (by simp)
  have notBox : "input" ≠ tag := notPart _ (by simp)
  have notHead : "th" ≠ tag := notPart _ (by simp)
  have notRange : "span" ≠ tag := notPart _ (by simp)
  have toggles := flatMap_withTag_of_none tag
    (fun toggle => withTag_toggleHtml toggle notLabel notBox) v.toggles
  have filters := flatMap_withTag_of_none tag
    (fun f => withTag_filterHtml f notHead notBox) v.filters
  rw [withTag_html, toggles, flatMap_withTag_rowsHtml, filters, if_neg notRange]
  · rfl
  · intro t mem
    refine notPart t ?_
    simp only [List.mem_cons] at mem ⊢
    tauto
  · intro t mem
    refine notPart t ?_
    simp only [List.mem_cons] at mem ⊢
    tauto

theorem withTag_button_html :
    (v.html path).withTag "button" = v.buttons.elim [] buttonsHtml := by
  rw [withTag_html_of_below _ _ (by simp), overlayHtml]
  cases v.noRows <;> cases v.buttons <;> simp [button, buttonsHtml, ofClass]

theorem withTag_p_html : (v.html path).withTag "p" = v.overlayHtml := by
  rw [withTag_html_of_below _ _ (by simp), overlayHtml]
  cases v.noRows <;> cases v.buttons <;> simp [button, buttonsHtml, ofClass]

theorem boundTexts_html : (v.html path).boundTexts = v.filters.filterMap FilterBox.text := by
  have below : v.overlayHtml.flatMap (withTag "input") = [] ∧
      (v.buttons.elim [] buttonsHtml).flatMap (withTag "input") = [] := by
    rw [overlayHtml]
    cases v.noRows <;> cases v.buttons <;> simp [button, buttonsHtml, ofClass]
  have toggles : ((v.toggles.map toggleHtml).flatMap (withTag "input")).filterMap
      (value? "prop:value") = [] := by
    rw [List.filterMap_flatMap, List.flatMap_map]
    exact List.flatMap_eq_nil_iff.mpr fun toggle _ => boundTexts_toggleHtml toggle
  have filters : ((v.filters.map filterHtml).flatMap (withTag "input")).filterMap
      (value? "prop:value") = v.filters.filterMap FilterBox.text := by
    rw [List.filterMap_flatMap, List.flatMap_map, List.filterMap_eq_flatMap_toList]
    exact List.flatMap_congr fun f _ => boundTexts_filterHtml f
  rw [boundTexts, withTag_html _ _ (by simp), flatMap_withTag_rowsHtml _ _ (by simp), below.1,
    below.2, List.filterMap_append, toggles, List.filterMap_append, filters]
  simp

end EvaluationBrowser.Site.GridView


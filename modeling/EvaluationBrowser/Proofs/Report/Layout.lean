/-
# How a table is laid out

The width of a column is the number of characters of the longest text in it, its heading included,
and a column begins where the columns before it end. Both are said here of the page alone, without
the folding by which the widths are found and without the padding by which lines are made.

Cutting a line where a column begins leaves the line of the columns from there on. So what is to be
said of a column needs to be said of the first column of a line only, and the spaces up to the next
text are two kinds: those that fill the column, and the two before the next column, if there is one.
-/
import EvaluationBrowser.Proofs.Grid.Reachable
import EvaluationBrowser.Proofs.Report.Table

namespace EvaluationBrowser.Report.Table

open Grid (Page State)

/-! ## Columns -/

/-- The texts in a column, its heading first. -/
def columnTexts (page : Page) (j : Nat) : List (List Char) :=
  (headings page)[j]?.toList ++ page.rows.filterMap fun r => (texts r)[j]?

/-- The characters of the longest text in a column. -/
def columnWidth (page : Page) (j : Nat) : Nat := ((columnTexts page j).map List.length).foldl max 0

/-- The characters before a column: those of the columns before it, and two spaces for each. -/
def columnStart (page : Page) (j : Nat) : Nat :=
  ((List.range j).map fun k => columnWidth page k + 2).sum

/-- The characters on a line, without its line feed. -/
def lineWidth (page : Page) : Nat := columnStart page page.columns.length

/-- Where the text of a column begins. -/
def textStart (page : Page) (j : Nat) : Nat := 2 + columnStart page j

section Widths

variable {page : Page}

theorem getElem?_widen {widths : List Nat} {texts : List (List Char)} {text : List Char}
    {width j : Nat} (aligned : texts.length = widths.length) (inWidths : widths[j]? = some width)
    (inTexts : texts[j]? = some text) :
    (widen widths texts)[j]? = some (max width text.length) := by
  rw [widen_eq_zipWith aligned, List.getElem?_zipWith, inWidths, inTexts]

/-- The widths folded over some lines are the longest texts column by column. -/
theorem getElem?_foldl_widen {lines : List (List (List Char))} {widths : List Nat} {width j : Nat}
    (aligned : ∀ texts ∈ lines, texts.length = widths.length) (found : widths[j]? = some width) :
    (lines.foldl widen widths)[j]?
      = some (((lines.filterMap (·[j]?)).map List.length).foldl max width) := by
  induction lines generalizing widths width with
  | nil => exact found
  | cons texts lines ih =>
      have first := aligned texts List.mem_cons_self
      have rest : ∀ others ∈ lines, others.length = (widen widths texts).length := by
        intro others mem
        rw [length_widen, aligned others (List.mem_cons_of_mem _ mem)]
      obtain ⟨within, -⟩ := List.getElem?_eq_some_iff.mp found
      obtain ⟨text, inTexts⟩ : ∃ text, texts[j]? = some text :=
        ⟨_, List.getElem?_eq_getElem (first ▸ within)⟩
      have column : (texts :: lines).filterMap (·[j]?) = text :: lines.filterMap (·[j]?) :=
        List.filterMap_cons_some inTexts
      rw [List.foldl_cons, ih rest (getElem?_widen first found inTexts), column]
      rfl

variable (aligned : ∀ r ∈ page.rows, r.cells.length = page.columns.length)

include aligned

/-- Folding finds the widths of the columns. -/
theorem widths_eq_map : widths page = (List.range page.columns.length).map (columnWidth page) := by
  have count : (widths page).length = page.columns.length := by
    rw [← (fits_headings aligned).length_eq, headings, List.length_map]
  refine List.ext_getElem? fun j => ?_
  rw [List.getElem?_map]
  by_cases within : j < page.columns.length
  · obtain ⟨heading, inHeadings⟩ : ∃ heading, (headings page)[j]? = some heading :=
      ⟨_, List.getElem?_eq_getElem (by rwa [headings, List.length_map])⟩
    have start : ((headings page).map List.length)[j]? = some heading.length := by
      rw [List.getElem?_map, inHeadings, Option.map_some]
    rw [List.getElem?_range within, Option.map_some, widths,
      getElem?_foldl_widen (fun _ mem => length_of_mem_rows aligned mem) start, columnWidth,
      columnTexts, inHeadings, List.filterMap_map]
    simp only [Option.toList_some, List.singleton_append, List.map_cons, List.foldl_cons,
      Nat.zero_max]
    rfl
  · rw [List.getElem?_eq_none (by omega), List.getElem?_eq_none (by rw [List.length_range]; omega)]
    rfl

theorem total_take_widths {j : Nat} (within : j ≤ page.columns.length) :
    total ((widths page).take j) = columnStart page j := by
  rw [widths_eq_map aligned, ← List.map_take, List.take_range, Nat.min_eq_left within, total,
    List.map_map]
  rfl

theorem total_widths : total (widths page) = lineWidth page := by
  rw [widths_eq_map aligned, total, List.map_map]
  rfl

end Widths

/-! ## Lines -/

section Lines

variable {texts : List (List Char)} {widths : List Nat}

/-- Behind some columns of a line stands the line of the others. -/
theorem drop_line (fits : Fits texts widths) (j : Nat) :
    (line texts widths).drop (total (widths.take j)) = line (texts.drop j) (widths.drop j) := by
  induction fits generalizing j with
  | nil =>
      rw [List.take_nil, List.drop_nil, List.drop_nil]
      rfl
  | @cons text width texts widths fit _ ih =>
      cases j with
      | zero => rfl
      | succ j =>
          have skipped : total ((width :: widths).take (j + 1))
              = ([' ', ' '] ++ pad text width).length + total (widths.take j) := by
            rw [List.length_append, length_pad fit, List.take_succ_cons, total, total,
              List.map_cons, List.sum_cons, List.length_cons, List.length_singleton]
            omega
          rw [line_cons, ← List.append_assoc, skipped, List.drop_length_add_append, ih,
            List.drop_succ_cons, List.drop_succ_cons]

/-- A line that has columns begins with two spaces. -/
theorem getElem?_line_of_lt_two (fits : Fits texts widths) {i : Nat} (near : i < 2)
    (within : i < total widths) : (line texts widths)[i]? = some ' ' := by
  cases fits with
  | nil => cases within
  | cons _ _ =>
      rw [line_cons, List.getElem?_append_left (by exact near)]
      match i, near with
      | 0, _ => rfl
      | 1, _ => rfl

/-- Up to the text of the next column, what follows the first text of a line are spaces. -/
theorem getElem?_line_of_le {text : List Char} {width : Nat}
    (fits : Fits (text :: texts) (width :: widths)) {i : Nat} (behind : 2 + text.length ≤ i)
    (before : i < 2 + width + 2) (within : i < total (width :: widths)) :
    (line (text :: texts) (width :: widths))[i]? = some ' ' := by
  cases fits with
  | cons fit rest =>
    have all : total (width :: widths) = 2 + width + total widths := by
      rw [total, List.map_cons, List.sum_cons, ← total]
      omega
    have filled : ([' ', ' '] ++ pad text width).length = 2 + width := by
      rw [List.length_append, length_pad fit]
      rfl
    rw [line_cons, ← List.append_assoc]
    by_cases inside : i < 2 + width
    · rw [List.getElem?_append_left (by omega), pad, ← List.append_assoc,
        List.getElem?_append_right (by rw [List.length_append]; exact behind),
        List.getElem?_replicate, if_pos]
      rw [List.length_append]
      change i - (2 + text.length) < _
      omega
    · rw [List.getElem?_append_right (by omega), filled]
      exact getElem?_line_of_lt_two rest (by omega) (by omega)

end Lines

/-! ## The theorem -/

/-- A line that shows some texts, each in its column. -/
structure ShowsLine (page : Page) (texts : List (List Char)) (shown : List Char) : Prop where
  /-- There is a text for every column. -/
  count : texts.length = page.columns.length
  lineFeed : ∃ body : List Char, body.length = lineWidth page ∧ shown = body ++ ['\n']
  /-- The whole text stands where the texts of its column begin. -/
  text : ∀ (j : Nat) (text : List Char), texts[j]? = some text →
    (shown.drop (textStart page j)).take text.length = text
  /-- It ends two characters before the next one begins, or earlier. -/
  apart : ∀ (j : Nat) (text : List Char), texts[j]? = some text →
    textStart page j + text.length + 2 ≤ textStart page (j + 1)
  /-- All between it and the next one, or the line feed, are spaces. -/
  spaces : ∀ (j : Nat) (text : List Char), texts[j]? = some text → ∀ i,
    textStart page j + text.length ≤ i → i < textStart page (j + 1) → i < lineWidth page →
      shown[i]? = some ' '
  indent : ∀ i, i < textStart page 0 → i < lineWidth page → shown[i]? = some ' '

/-- A table of lines of one length, between rules of hyphens, and its last line. -/
def IsLaidOut (page : Page) (out : List Char) : Prop :=
  let rule := List.replicate (lineWidth page) '-' ++ ['\n']
  ∃ (heading : List Char) (rows : List (List Char)),
    out = rule ++ heading ++ rule
        ++ (if page.rows = [] then "  No evaluation settings\n".toList else rows.flatten)
        ++ rule ++ ("  Rows " ++ page.rangeLabel ++ "  (page " ++ toString (page.number + 1)
          ++ "/" ++ toString page.pageCount ++ ")\n").toList ∧
      ShowsLine page (headings page) heading ∧
      List.Forall₂ (fun r line => ShowsLine page (texts r) line) page.rows rows

section Page

variable {page : Page}

theorem columnStart_succ (page : Page) (j : Nat) :
    columnStart page (j + 1) = columnStart page j + (columnWidth page j + 2) := by
  rw [columnStart, List.range_succ, List.map_append, List.sum_append, ← columnStart]
  rfl

variable (aligned : ∀ r ∈ page.rows, r.cells.length = page.columns.length)

include aligned

/-- Cut where one of its texts has its column, a line begins with that text. -/
theorem exists_drop_line {texts : List (List Char)} (fits : Fits texts (widths page)) {j : Nat}
    {text : List Char} (found : texts[j]? = some text) :
    ∃ others widths', Fits (text :: others) (columnWidth page j :: widths') ∧
      (line texts (widths page)).drop (columnStart page j)
        = line (text :: others) (columnWidth page j :: widths') ∧
      columnStart page j + total (columnWidth page j :: widths') = lineWidth page := by
  obtain ⟨within, rfl⟩ := List.getElem?_eq_some_iff.mp found
  have count : (widths page).length = page.columns.length := by
    rw [widths_eq_map aligned, List.length_map, List.length_range]
  have inWidths : j < (widths page).length := fits.length_eq ▸ within
  have width : (widths page)[j] = columnWidth page j := by
    simp only [widths_eq_map aligned, List.getElem_map, List.getElem_range]
  have inColumns : j ≤ page.columns.length := by omega
  have restTexts := List.drop_eq_getElem_cons within
  have restWidths := List.drop_eq_getElem_cons inWidths
  rw [width] at restWidths
  refine ⟨texts.drop (j + 1), (widths page).drop (j + 1), ?_, ?_, ?_⟩
  · rw [← restTexts, ← restWidths]
    exact List.forall₂_drop j fits
  · rw [← restTexts, ← restWidths, ← total_take_widths aligned inColumns, drop_line fits]
  · rw [← restWidths, ← total_take_widths aligned inColumns, ← total_widths aligned, total, total,
      total, ← List.sum_append, ← List.map_append, List.take_append_drop]

theorem showsLine_line {texts : List (List Char)} (fits : Fits texts (widths page)) :
    ShowsLine page texts (line texts (widths page)) where
  count := by
    rw [fits.length_eq, widths_eq_map aligned, List.length_map, List.length_range]
  lineFeed := by
    have length := length_line fits
    rw [line, List.length_append, List.length_singleton, total_widths aligned] at length
    exact ⟨_, Nat.succ.inj length, rfl⟩
  text j text found := by
    obtain ⟨others, widths', -, rest, -⟩ := exists_drop_line aligned fits found
    rw [textStart, Nat.add_comm, ← List.drop_drop, rest, line_cons, pad, List.append_assoc]
    exact List.take_left' rfl
  apart j text found := by
    obtain ⟨others, widths', fits, -, -⟩ := exists_drop_line aligned fits found
    cases fits with
    | cons fit _ =>
      rw [textStart, textStart, columnStart_succ]
      omega
  spaces j text found i behind before within := by
    obtain ⟨others, widths', fits, rest, all⟩ := exists_drop_line aligned fits found
    simp only [textStart, columnStart_succ] at behind before
    have place : columnStart page j + (i - columnStart page j) = i := by omega
    rw [← place, ← List.getElem?_drop, rest]
    exact getElem?_line_of_le fits (by omega) (by omega) (by omega)
  indent i near within := by
    rw [← total_widths aligned] at within
    exact getElem?_line_of_lt_two fits near within

theorem isLaidOut_of_aligned : IsLaidOut page (table page).toList := by
  refine ⟨line (headings page) (widths page), page.rows.map fun r => line (texts r) (widths page),
    ?_, showsLine_line aligned (fits_headings aligned), ?_⟩
  · rw [table, String.toList_ofList, chars, rule_eq, total_widths aligned, body, List.flatMap_def,
      Page.isEmpty, footer]
    simp only [List.isEmpty_iff]
  · rw [List.forall₂_map_right_iff, List.forall₂_same]
    exact fun r mem => showsLine_line aligned (fits_texts aligned mem)

end Page

/-! ## The theorem -/

/-- The only column without a heading is the one of links. -/
theorem headings_eq (page : Page) :
    headings page = page.columns.map fun c =>
      (if c = .metrics then "view_metrics" else c.heading).toList := by
  refine List.map_congr_left fun c _ => congrArg String.toList ?_
  cases c <;> rfl

theorem texts_of_mem_rows {s : State} {settings : List Setting} {r : Grid.Row}
    (mem : r ∈ (s.view settings).rows) :
    ∃ setting, settings[r.index]? = some setting ∧
      texts r = s.visibleColumns.map fun c => (setting.textIn c).toList := by
  obtain ⟨setting, found, -, exported⟩ := State.exported_of_mem_rows mem
  refine ⟨setting, found, ?_⟩
  have texts := congrArg (List.map String.toList) exported
  rwa [List.map_map, List.map_map] at texts

/-- Whatever a grid shows, its table is laid out by the texts that it shows: every column is as wide
as its longest text, no text is cut, and none reaches into the next column. The texts are the
headings of the columns and what the settings have to show under them. -/
theorem isLaidOut_table (s : State) (settings : List Setting) :
    IsLaidOut (s.view settings) (table (s.view settings)).toList ∧
      (headings (s.view settings) = s.visibleColumns.map fun c =>
        (if c = .metrics then "view_metrics" else c.heading).toList) ∧
      ∀ r ∈ (s.view settings).rows, ∃ setting, settings[r.index]? = some setting ∧
        texts r = s.visibleColumns.map fun c => (setting.textIn c).toList :=
  ⟨isLaidOut_of_aligned (length_cells_of_rows (State.rows_view s settings)), headings_eq _,
    fun _ => texts_of_mem_rows⟩

end EvaluationBrowser.Report.Table

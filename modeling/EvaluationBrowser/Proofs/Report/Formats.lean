/-
# The formats of a page agree

The rows of a page are made of settings, and each keeps the position of its own in the list given.
Looking the settings up by these positions therefore finds all of them again, in the order of the
rows, so the JSON form of the page shows the settings whose texts stand in its other forms.

The texts are those of the settings' own fields. An area has no text of its own; it is shown in
positional notation, from which it can be read back.
-/
import EvaluationBrowser.Proofs.Binary64.Positional
import EvaluationBrowser.Proofs.Grid.Walk
import EvaluationBrowser.Proofs.Report.Records
import EvaluationBrowser.Proofs.Report.Table
import EvaluationBrowser.Proofs.Setting.Format

namespace EvaluationBrowser.Report

open Grid (Page State)

/-- All forms of a page made from some settings show these of them, under its columns. -/
structure FormatsShow (page : Page) (settings shown : List Setting) : Prop where
  /-- Row by row, these are the settings at the positions of the rows. -/
  rows : page.rows.map (fun r => settings[r.index]?) = shown.map some
  json : json page settings = Setting.encodeAll shown
  /-- They are read from it again, except that an area may come back as one close to it. -/
  read : (∀ s ∈ shown, s.HasFiniteAreas) →
    Setting.decodeAll (Report.json page settings) = .ok (shown.map Setting.reread)
  /-- The records behind the header. -/
  csv : (Csv.readTexts .lineFeed (csv page)).map List.tail
    = some (shown.map fun s => toString s.id.toNat :: page.columns.map s.textIn)
  /-- The lines behind the heading and its rules. What follows a text in its column are spaces. -/
  table : ∀ k s, shown[k]? = some s →
    List.Forall₂ (fun slot text => ∃ n, slot = String.toList text ++ List.replicate n ' ')
      (Table.slots (Table.widths page) (Table.segment page (k + 3)))
      (page.columns.map s.textIn)
  /-- The text of an area tells which number it is. -/
  areas : ∀ s ∈ shown,
    (∀ x, s.minArea = some x → Binary64.ofString? (s.textIn .minArea) = some x) ∧
      ∀ x, s.maxArea = some x → Binary64.ofString? (s.textIn .maxArea) = some x

section Page

variable {page : Page} {settings : List Setting}

/-- Nothing is lost where every row finds a setting. -/
theorem shownOn_of_rows {found : List Setting}
    (rows : page.rows.map (fun r => settings[r.index]?) = found.map some) :
    shownOn page settings = found := by
  have lookups : page.rows.filterMap (fun r => settings[r.index]?)
      = (page.rows.map fun r => settings[r.index]?).filterMap id := by
    rw [List.filterMap_map]
    rfl
  rw [shownOn, lookups, rows, List.filterMap_map]
  exact List.filterMap_some

theorem rowTexts_row (columns : List Column) (r : Setting × Nat) :
    Csv.rowTexts (State.row columns r) = toString r.1.id.toNat :: columns.map r.1.textIn := by
  rw [Csv.rowTexts, State.exported_row]
  rfl

theorem texts_row (columns : List Column) (r : Setting × Nat) :
    Table.texts (State.row columns r) = (columns.map r.1.textIn).map String.toList := by
  rw [Table.texts, ← State.exported_row, List.map_map]
  rfl

theorem ofString?_elim_positional {area : Option Binary64} {x : Binary64} (given : area = some x) :
    Binary64.ofString? (area.elim "" Binary64.positional) = some x := by
  rw [given, Option.elim_some, Binary64.ofString?_positional]

variable {shown : List (Setting × Nat)}

/-- The formats agree on every page whose rows are made of settings at their own positions. -/
theorem formatsShow_of_rows (rows : page.rows = shown.map (State.row page.columns))
    (positions : ∀ r ∈ shown, settings[r.2]? = some r.1) :
    FormatsShow page settings (shown.map Prod.fst) := by
  have lookup : page.rows.map (fun r => settings[r.index]?) = (shown.map Prod.fst).map some := by
    rw [rows, List.map_map, List.map_map]
    exact List.map_congr_left positions
  have encoded : json page settings = Setting.encodeAll (shown.map Prod.fst) := by
    rw [json, shownOn_of_rows lookup]
  refine { rows := lookup, json := encoded, read := ?_, csv := ?_, table := ?_,
           areas := fun s _ => ⟨fun _ => ofString?_elim_positional,
             fun _ => ofString?_elim_positional⟩ }
  · intro finite
    rw [encoded, Setting.decodeAll_encodeAll finite]
  · rw [Csv.readTexts_csv, Option.map_some, Csv.pageTexts, List.tail_cons, rows, List.map_map,
      List.map_map]
    exact congrArg some (List.map_congr_left fun r _ => rowTexts_row page.columns r)
  · intro k s found
    obtain ⟨r, inShown, rfl⟩ := Option.map_eq_some_iff.mp (List.getElem?_map.symm.trans found)
    have row : page.rows[k]? = some (State.row page.columns r) := by
      rw [rows, List.getElem?_map, inShown]
      rfl
    have aligned := Table.length_cells_of_rows rows
    have fits := Table.fits_texts aligned (List.mem_of_getElem? row)
    rw [texts_row] at fits
    rw [Table.slots_segment_row aligned row, texts_row]
    exact List.forall₂_map_right_iff.mp (Table.forall₂_pad fits)

end Page

/-- Whatever has been done to a grid, the JSON form of the page that it shows holds the settings at
the positions of the rows, all of them and in their order; the records separated by commas tell the
identifiers and the visible texts of the same settings; and so do the lines of the table, but for
the identifiers. -/
theorem formatsShow_view (actions : List Grid.Action) (settings : List Setting) :
    ∃ shown, FormatsShow ((State.ofActions actions).view settings) settings shown :=
  ⟨_, formatsShow_of_rows (State.rows_view _ _) fun _ mem =>
    (State.mem_shownSettings.mp (List.mem_of_mem_drop (List.mem_of_mem_take mem))).1⟩

end EvaluationBrowser.Report

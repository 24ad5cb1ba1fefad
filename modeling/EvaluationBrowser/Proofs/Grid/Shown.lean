/-
# What a setting shows

A column makes a cell of a setting. The same is said here by the fields of the setting, apart from
the columns: which text it has in a report and on a page, and which filters find it. What a grid
shows, finds and ranks is stated in these terms, so none of it rests on how the cells are made.
-/
import EvaluationBrowser.Grid.Page
import EvaluationBrowser.Report.Export

namespace EvaluationBrowser

namespace Setting

/-- What a setting shows under a column, as text: one of its texts as it is, an area in positional
notation or nothing where it is not given, and under the link column the way to its metrics. -/
def textIn (s : Setting) : Column → String
  | .datasetName => s.datasetName
  | .predictionTask => s.predictionTask
  | .groundTruthTask => s.groundTruthTask
  | .minArea => s.minArea.elim "" Binary64.positional
  | .maxArea => s.maxArea.elim "" Binary64.positional
  | .metrics => "evaluation-settings/" ++ toString s.id.toNat

/-- What can be read of it on a page, where a link has a label. -/
def shownIn (s : Setting) (c : Column) : String :=
  if c = .metrics then "view metrics" else s.textIn c

/-- The cell of a setting under a column; only that of the link column is a link. -/
def cellIn (s : Setting) (c : Column) : Cell :=
  if c = .metrics then .link "view metrics" (s.textIn c) else .text (s.textIn c)

/-- A link is exported as the way that it leads. -/
theorem exported_cellIn (s : Setting) (c : Column) : (s.cellIn c).exported = s.textIn c := by
  cases c <;> rfl

end Setting

namespace Column

theorem cell_eq_cellIn (c : Column) (s : Setting) : c.cell s = s.cellIn c := by
  cases c <;> rfl

theorem text_eq_shownIn (c : Column) (s : Setting) : c.text s = s.shownIn c := by
  cases c <;> rfl

end Column

namespace Grid

/-- Without the blanks around it, the filter's text stands in what the setting shows, both in small
letters. -/
def Filter.Finds (filter : Filter) (setting : Setting) : Prop :=
  Text.lowercaseChars (Text.trimChars filter.text.toList)
    <:+: Text.lowercaseChars (setting.shownIn filter.column).toList

namespace State

theorem isMatch_iff {s : State} {setting : Setting} :
    s.isMatch setting = true ↔ ∀ filter, s.filter = some filter → filter.Finds setting := by
  rw [isMatch]
  cases s.filter with
  | none => exact ⟨fun _ => nofun, fun _ => rfl⟩
  | some filter =>
      dsimp only
      rw [Text.occursIn_iff, filter.column.text_eq_shownIn]
      constructor
      · rintro stands _ ⟨⟩
        exact stands
      · exact fun found => found filter rfl

theorem row_eq (columns : List Column) (r : Setting × Nat) :
    row columns r = ⟨r.1.id, r.2, columns.map r.1.cellIn⟩ :=
  congrArg (Row.mk r.1.id r.2) (List.map_congr_left fun c _ => c.cell_eq_cellIn r.1)

theorem exported_row (columns : List Column) (r : Setting × Nat) :
    (row columns r).cells.map Cell.exported = columns.map r.1.textIn := by
  rw [row_eq, List.map_map]
  exact List.map_congr_left fun c _ => r.1.exported_cellIn c

end State

end Grid

end EvaluationBrowser

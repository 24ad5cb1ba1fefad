/-
# The columns of the grid

Five columns show data of a setting; they can be sorted, filtered and hidden. The sixth links to
the metrics of the setting and can be none of these. A column has a field name, by which people
name it, and a heading; the link column's heading is empty.
-/
import EvaluationBrowser.Setting.Basic
import EvaluationBrowser.Text.Search

namespace EvaluationBrowser

inductive Column where
  | datasetName
  | predictionTask
  | groundTruthTask
  | minArea
  | maxArea
  | metrics
  deriving DecidableEq

namespace Column

/-- All columns, in the order in which they are shown. -/
def all : List Column :=
  [.datasetName, .predictionTask, .groundTruthTask, .minArea, .maxArea, .metrics]

def field : Column → String
  | .datasetName => "dataset_name"
  | .predictionTask => "model_pred_task_type"
  | .groundTruthTask => "dataset_gt_task_type"
  | .minArea => AreaBound.min.name
  | .maxArea => AreaBound.max.name
  | .metrics => "view_metrics"

def heading : Column → String
  | .datasetName => "Dataset"
  | .predictionTask => "Model Task Type"
  | .groundTruthTask => "Dataset Task Type"
  | .minArea => "Min Area"
  | .maxArea => "Max Area"
  | .metrics => ""

/-- The width in pixels, where it is fixed. -/
def width : Column → Option Nat
  | .datasetName | .predictionTask => some 200
  | _ => none

/-- The column shows data of the setting. -/
def isData : Column → Bool
  | .metrics => false
  | _ => true

def isSortable (c : Column) : Bool := c.isData

def isFilterable (c : Column) : Bool := c.isData

def isHideable (c : Column) : Bool := c.isData

def ofField? (field : String) : Option Column := all.find? (·.field == field)

theorem mem_all (c : Column) : c ∈ all := by cases c <;> decide

theorem ofField?_field (c : Column) : ofField? c.field = some c := by cases c <;> decide

theorem field_injective {c d : Column} (same : c.field = d.field) : c = d := by
  have found := ofField?_field c
  rw [same, ofField?_field] at found
  exact (Option.some.inj found).symm

/-! ## Cells -/

def linkLabel : String := "view metrics"

/-- The way from a model's page to the metrics of one of its settings. -/
def metricsLink (id : UInt64) : String := "evaluation-settings/" ++ toString id.toNat

/-- The area that a column shows. -/
def area? : Column → Option AreaBound
  | .minArea => some .min
  | .maxArea => some .max
  | _ => none

/-- What a column shows of a setting. An area that is not given shows as nothing. -/
def text (c : Column) (s : Setting) : String :=
  match c with
  | .datasetName => s.datasetName
  | .predictionTask => s.predictionTask
  | .groundTruthTask => s.groundTruthTask
  | .minArea => s.minArea.elim "" Binary64.positional
  | .maxArea => s.maxArea.elim "" Binary64.positional
  | .metrics => linkLabel

end Column

inductive Cell where
  | text (text : String)
  | link (label href : String)
  deriving DecidableEq

def Column.cell (c : Column) (s : Setting) : Cell :=
  match c with
  | .metrics => .link linkLabel (metricsLink s.id)
  | c => .text (c.text s)

/-! ## Order

Areas are ordered as numbers, one that is not given before all others; numbers that do not compare
count as equal. All other columns are ordered as texts. -/

def compareAreas : Option Binary64 → Option Binary64 → Ordering
  | none, none => .eq
  | none, some _ => .lt
  | some _, none => .gt
  | some x, some y => (x.compare? y).getD .eq

def Column.compare (c : Column) (a b : Setting) : Ordering :=
  match c.area? with
  | some bound => compareAreas (a.area bound) (b.area bound)
  | none => Text.compareTexts (c.text a) (c.text b)

end EvaluationBrowser

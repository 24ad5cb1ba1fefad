/-
# What makes a setting valid

Decoding a setting settles its types; these rules settle whether it makes sense. The dataset has a
name that is not blank. An area that is given is finite and not below zero, and a negative zero is
not below zero. If both areas are given, the lower is not above the upper. The rules are asked in
that order, the lower area before the upper, and the first that is broken is the one reported.
-/
import EvaluationBrowser.Setting.Basic
import EvaluationBrowser.Text.Blank

namespace EvaluationBrowser.Setting

inductive Violation where
  | blankDataset
  | notFinite (bound : AreaBound)
  | negative (bound : AreaBound)
  | inverted (min max : Binary64)
  deriving DecidableEq

def Violation.reason : Violation → String
  | .blankDataset => "dataset_name is empty"
  | .notFinite bound => bound.name ++ " is not finite"
  | .negative bound => bound.name ++ " is negative"
  | .inverted min max =>
    "min_area " ++ min.positional ++ " exceeds max_area " ++ max.positional

/-- The rule that one area breaks by itself. -/
def areaViolation? (s : Setting) (bound : AreaBound) : Option Violation :=
  match s.area bound with
  | none => none
  | some area =>
    if !area.isFinite then some (.notFinite bound)
    else if area.isLess Binary64.zero then some (.negative bound)
    else none

/-- The rule that the two areas break together. -/
def rangeViolation? (s : Setting) : Option Violation :=
  match s.minArea, s.maxArea with
  | some min, some max => if max.isLess min then some (.inverted min max) else none
  | _, _ => none

/-- The first rule that the setting breaks. -/
def violation? (s : Setting) : Option Violation :=
  if Text.isBlankText s.datasetName then some .blankDataset
  else
    (s.areaViolation? .min).or ((s.areaViolation? .max).or s.rangeViolation?)

def IsValid (s : Setting) : Prop := s.violation? = none

instance (s : Setting) : Decidable s.IsValid :=
  inferInstanceAs (Decidable (s.violation? = none))

end EvaluationBrowser.Setting

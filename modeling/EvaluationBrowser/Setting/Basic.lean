/-
# Evaluation settings

One evaluation setting says on which dataset a model was evaluated, for which task the model
predicts and for which the dataset has ground truth, and between which object areas the evaluation
was held. Either area may be open, and the model may be left unnamed.
-/
import EvaluationBrowser.Binary64.Positional

namespace EvaluationBrowser

structure Setting where
  id : UInt64
  modelName : Option String
  datasetName : String
  predictionTask : String
  groundTruthTask : String
  minArea : Option Binary64
  maxArea : Option Binary64
  deriving DecidableEq

/-- The two ends of the range of areas. -/
inductive AreaBound where
  | min
  | max
  deriving DecidableEq

def AreaBound.name : AreaBound → String
  | .min => "min_area"
  | .max => "max_area"

def Setting.area (s : Setting) : AreaBound → Option Binary64
  | .min => s.minArea
  | .max => s.maxArea

end EvaluationBrowser

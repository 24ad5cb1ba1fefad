/-
# Settings as JSON

A setting is an object with one member for each field. The identifier, the dataset and the two
tasks must be there; the model name and the areas may be missing or null, which means the same.
Members of other names are passed over. The list form has the values in the order of the fields.

Writing gives every field in that order, and null for what is not there.
-/
import EvaluationBrowser.Setting.Basic
import EvaluationBrowser.Json.Reader
import EvaluationBrowser.Json.Value

namespace EvaluationBrowser.Setting

inductive Field where
  | id
  | modelName
  | datasetName
  | predictionTask
  | groundTruthTask
  | minArea
  | maxArea
  deriving DecidableEq

def Field.all : List Field :=
  [.id, .modelName, .datasetName, .predictionTask, .groundTruthTask, .minArea, .maxArea]

def Field.name : Field → String
  | .id => "id"
  | .modelName => "model_name"
  | .datasetName => "dataset_name"
  | .predictionTask => "model_pred_task_type"
  | .groundTruthTask => "dataset_gt_task_type"
  | .minArea => AreaBound.min.name
  | .maxArea => AreaBound.max.name

/-- The fields read so far. A field that may be null is given even where it is null. -/
structure Draft where
  id : Option UInt64
  modelName : Option (Option String)
  datasetName : Option String
  predictionTask : Option String
  groundTruthTask : Option String
  minArea : Option (Option Binary64)
  maxArea : Option (Option Binary64)

def Draft.empty : Draft := ⟨none, none, none, none, none, none, none⟩

def Draft.isGiven (d : Draft) : Field → Bool
  | .id => d.id.isSome
  | .modelName => d.modelName.isSome
  | .datasetName => d.datasetName.isSome
  | .predictionTask => d.predictionTask.isSome
  | .groundTruthTask => d.groundTruthTask.isSome
  | .minArea => d.minArea.isSome
  | .maxArea => d.maxArea.isSome

/-- One field read into the draft. -/
def Draft.read (field : Field) (d : Draft) : Json.Reader Draft := fun cs =>
  match field with
  | .id => (Json.Reader.natural cs).map fun r => ({ d with id := some r.1 }, r.2)
  | .modelName =>
    (Json.Reader.optional .text cs).map fun r => ({ d with modelName := some r.1 }, r.2)
  | .datasetName => (Json.Reader.text cs).map fun r => ({ d with datasetName := some r.1 }, r.2)
  | .predictionTask =>
    (Json.Reader.text cs).map fun r => ({ d with predictionTask := some r.1 }, r.2)
  | .groundTruthTask =>
    (Json.Reader.text cs).map fun r => ({ d with groundTruthTask := some r.1 }, r.2)
  | .minArea => (Json.Reader.optional .real cs).map fun r => ({ d with minArea := some r.1 }, r.2)
  | .maxArea => (Json.Reader.optional .real cs).map fun r => ({ d with maxArea := some r.1 }, r.2)

/-- The setting of a draft, or the first field that it needs and that is missing. -/
def Draft.finish (d : Draft) : Except Field Setting :=
  match d.id, d.datasetName, d.predictionTask, d.groundTruthTask with
  | none, _, _, _ => .error .id
  | _, none, _, _ => .error .datasetName
  | _, _, none, _ => .error .predictionTask
  | _, _, _, none => .error .groundTruthTask
  | some id, some dataset, some prediction, some groundTruth =>
    .ok ⟨id, d.modelName.join, dataset, prediction, groundTruth, d.minArea.join, d.maxArea.join⟩

def format : Json.RecordFormat Field Draft Setting where
  title := "struct EvaluationSetting"
  fields := Field.all
  name := Field.name
  empty := Draft.empty
  isGiven := Draft.isGiven
  read := Draft.read
  finish := Draft.finish

def reader : Json.Reader Setting := .record format

/-- One setting, by itself. -/
def decode (s : String) : Except Json.Error Setting := Json.Reader.document reader s

/-- A list of settings. -/
def decodeAll (s : String) : Except Json.Error (List Setting) :=
  Json.Reader.document (Json.Reader.list reader) s

/-! ## Writing -/

def fieldValue (s : Setting) : Field → Json.Value
  | .id => .ofNat s.id.toNat
  | .modelName => .ofOption .text s.modelName
  | .datasetName => .text s.datasetName
  | .predictionTask => .text s.predictionTask
  | .groundTruthTask => .text s.groundTruthTask
  | .minArea => .ofOption .ofBinary64 s.minArea
  | .maxArea => .ofOption .ofBinary64 s.maxArea

def toValue (s : Setting) : Json.Value :=
  .object (Field.all.map fun field => (field.name, s.fieldValue field))

def encode (s : Setting) : String := s.toValue.render .compact

/-- The indented form of a list of settings. -/
def encodeAll (settings : List Setting) : String :=
  (Json.Value.list (settings.map toValue)).render .indented

end EvaluationBrowser.Setting
